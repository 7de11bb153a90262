import LuaBytecode.Proofs.Jit.RoundTrip
/-!
Dumps of LuaJIT whose words have their highest byte first. The flag that says so is read, but words
are read lowest byte first all the same, so that each comes out with its bytes in reverse.
-/
namespace LuaBytecode.Jit

variable {stripped : Bool}

def mirrored (width : Nat) (word : Int) : Int :=
  ByteOrder.little.decode (ByteOrder.big.encode width (unsigned (8 * width) word))

def IsPalindrome (width : Nat) (word : Int) : Prop :=
  ByteOrder.big.encode width (unsigned (8 * width) word) = ByteOrder.little.encode width (unsigned (8 * width) word)
deriving Decidable

theorem fitsBits_mirrored (width : Nat) (word : Int) : FitsBits (8 * width) (mirrored width word) := by
  have bound := Bytes.toNat_lt (ByteOrder.big.encode width (unsigned (8 * width) word))
  rw [ByteOrder.length_encode, show 256 = 2 ^ 8 from rfl, ← Nat.pow_mul] at bound
  have cast : ((2 ^ (8 * width) : Nat) : Int) = 2 ^ (8 * width) := by simp
  refine ⟨Int.natCast_nonneg _, ?_⟩
  rw [← cast]
  exact Int.ofNat_lt.mpr bound

theorem encode_mirrored (width : Nat) (word : Int) :
    ByteOrder.little.encode width (unsigned (8 * width) (mirrored width word)) =
      ByteOrder.big.encode width (unsigned (8 * width) word) := by
  have value : unsigned (8 * width) (mirrored width word) =
      Bytes.toNat (ByteOrder.big.encode width (unsigned (8 * width) word)) :=
    Int.ofNat_inj.mp (unsigned_of_fits (fitsBits_mirrored width word))
  have spelled := Bytes.ofNat_toNat (ByteOrder.big.encode width (unsigned (8 * width) word))
  rw [ByteOrder.length_encode] at spelled
  rw [value]
  exact spelled

theorem mirrored_eq_iff {width : Nat} {word : Int} (fits : FitsBits (8 * width) word) :
    mirrored width word = word ↔ IsPalindrome width word := by
  constructor
  · intro same
    rw [IsPalindrome, ← encode_mirrored, same]
  · intro palindrome
    have small : unsigned (8 * width) word < 256 ^ width := by
      rw [show 256 = 2 ^ 8 from rfl, ← Nat.pow_mul]
      exact unsigned_lt (8 * width) word
    rw [mirrored, palindrome, ByteOrder.decode_encode, Nat.mod_eq_of_lt small, unsigned_of_fits fits]

theorem map_mirrored_eq_iff (width : Nat) {words : List Int} (fits : ∀ word ∈ words, FitsBits (8 * width) word) :
    words.map (mirrored width) = words ↔ ∀ word ∈ words, IsPalindrome width word := by
  have each : words.map (mirrored width) = words.map id ↔ ∀ word ∈ words, mirrored width word = id word :=
    List.map_inj_left
  rw [List.map_id] at each
  rw [each]
  constructor
  · intro same word member
    exact (mirrored_eq_iff (fits word member)).mp (same word member)
  · intro palindromes word member
    exact (mirrored_eq_iff (fits word member)).mpr (palindromes word member)

namespace Prototype

def mirrored (each : Prototype) : Prototype :=
  { each with
    code := each.code.map (Jit.mirrored 4)
    upvalueData := each.upvalueData.map (Jit.mirrored 2)
    lineInfo := each.lineInfo.map (Jit.mirrored (Write.lineWidth each.lineCount)) }

structure IsSymmetric (each : Prototype) : Prop where
  code : ∀ word ∈ each.code, IsPalindrome 4 word
  upvalueData : ∀ word ∈ each.upvalueData, IsPalindrome 2 word
  lineInfo : ∀ line ∈ each.lineInfo, IsPalindrome (Write.lineWidth each.lineCount) line

theorem fits_lineInfo {each : Prototype} {entries : List Variable} (range : each.Readable stripped entries) :
    ∀ line ∈ each.lineInfo, FitsBits (8 * Write.lineWidth each.lineCount) line := by
  have known := range.debug
  cases stripped with
  | true =>
    intro line member
    rw [known.lineInfo] at member
    cases member
  | false => exact known.1.lines

theorem mirrored_eq_self_iff {each : Prototype} {entries : List Variable} (range : each.Readable stripped entries) :
    each.mirrored = each ↔ each.IsSymmetric := by
  have code := map_mirrored_eq_iff 4 range.code
  have upvalueData := map_mirrored_eq_iff 2 range.upvalueData
  have lineInfo := map_mirrored_eq_iff _ (fits_lineInfo range)
  constructor
  · intro same
    exact ⟨code.mp (congrArg Prototype.code same), upvalueData.mp (congrArg Prototype.upvalueData same),
      lineInfo.mp (congrArg Prototype.lineInfo same)⟩
  · intro symmetric
    rw [mirrored, code.mpr symmetric.code, upvalueData.mpr symmetric.upvalueData, lineInfo.mpr symmetric.lineInfo]

theorem body_mirrored (each : Prototype) (entries : List Variable) :
    Write.body .little stripped each.mirrored entries = Write.body .big stripped each entries := by
  have code : ∀ word, ByteOrder.little.encode 4 (unsigned 32 (Jit.mirrored 4 word)) =
      ByteOrder.big.encode 4 (unsigned 32 word) := encode_mirrored 4
  have upvalueData : ∀ word, ByteOrder.little.encode 2 (unsigned 16 (Jit.mirrored 2 word)) =
      ByteOrder.big.encode 2 (unsigned 16 word) := encode_mirrored 2
  simp only [Write.body, Write.debug, mirrored, List.flatMap_map, List.length_map, code, upvalueData, encode_mirrored]

theorem length_body_big (each : Prototype) (entries : List Variable) :
    (Write.body .big stripped each entries).length = (Write.body .little stripped each entries).length := by
  cases stripped <;> simp [Write.body, Write.debug, List.length_flatMap]

theorem hasSections_mirrored {each : Prototype} {entries : List Variable} (known : each.HasSections entries) :
    each.mirrored.HasSections entries := by
  obtain ⟨known, legible, names⟩ := known
  refine ⟨{ known with lineInfo := ?_, lines := ?_, upvalueNames := ?_ }, legible, names⟩
  · have count := known.lineInfo
    simpa [mirrored] using count
  · intro line member
    obtain ⟨word, _, rfl⟩ := List.mem_map.mp member
    exact fitsBits_mirrored _ word
  · have count := known.upvalueNames
    simpa [mirrored] using count

theorem readable_mirrored {each : Prototype} {entries : List Variable} (range : each.Readable stripped entries) :
    each.mirrored.Readable stripped entries := by
  have length : (Write.body .little stripped each.mirrored entries).length =
      (Write.body .little stripped each entries).length := by rw [body_mirrored, length_body_big]
  have known := range.debug
  have upvalues := range.upvalueCount
  have count := range.codeCount
  refine { range with
    size := range.size.trans (congrArg _ length.symm)
    small := by rw [length]; exact range.small
    upvalueCount := by simpa [mirrored] using upvalues
    codeCount := by simpa [mirrored] using count
    code := ?_
    upvalueData := ?_
    debug := ?_ }
  · intro word member
    obtain ⟨before, _, rfl⟩ := List.mem_map.mp member
    exact fitsBits_mirrored 4 before
  · intro word member
    obtain ⟨before, _, rfl⟩ := List.mem_map.mp member
    exact fitsBits_mirrored 2 before
  · cases stripped with
    | true => exact { known with lineInfo := by simp [mirrored, known.lineInfo] }
    | false => exact hasSections_mirrored known

end Prototype

namespace Header

def big (header : Header) : Header := { header with flags := header.flags + 1 }

theorem flags_even {header : Header} (range : header.InRange) : header.flags % 2 = 0 := by
  have clear := of_decide_eq_false range.order
  omega

theorem isBigEndian_big {header : Header} (range : header.InRange) : header.big.isBigEndian = true := by
  have even := flags_even range
  have odd : (header.flags + 1) % 2 = 1 := by omega
  exact decide_eq_true odd

theorem isStripped_big {header : Header} (range : header.InRange) : header.big.isStripped = header.isStripped := by
  have even := flags_even range
  have half : (header.flags + 1) / 2 = header.flags / 2 := by omega
  simp only [isStripped, big, half]

theorem legible_big {header : Header} (range : header.InRange) : header.big.Legible where
  version := range.version
  flags := by
    have even := flags_even range
    have below := range.flags
    simp only [big]
    omega
  sourceName := by
    rw [isStripped_big range]
    exact range.sourceName

end Header

theorem dump_big {header : Header} (range : header.InRange) (written : List (Prototype × List Variable)) :
    Write.dump header.big written = Write.header header.big ++
      (((written.map fun each => (each.1.mirrored, each.2)).flatMap fun each =>
        Write.prototype .little header.big.isStripped each.1 each.2) ++ [0]) := by
  simp only [Write.dump, Header.isBigEndian_big range, ↓reduceIte, Write.prototype, List.flatMap_map,
    Prototype.body_mirrored, List.append_assoc]

theorem parse_big {header : Header} {written : List (Prototype × List Variable)} (range : header.InRange)
    (each : ∀ prototype ∈ written, prototype.1.Readable header.isStripped prototype.2) :
    (parse (Write.dump header.big written)).1 =
      .ok { header := header.big, prototypes := written.map fun prototype => prototype.1.mirrored } := by
  have readable : ∀ prototype ∈ written.map fun each => (each.1.mirrored, each.2),
      prototype.1.Readable header.big.isStripped prototype.2 := by
    intro prototype member
    obtain ⟨before, found, rfl⟩ := List.mem_map.mp member
    rw [Header.isStripped_big range]
    exact Prototype.readable_mirrored (each before found)
  rw [parse_run (Header.legible_big range) readable (dump_big range written), List.map_map]
  rfl

def prototypes? (bytes : Bytes) : Option (List Prototype) := (parse bytes).1.toOption.map Dump.prototypes

theorem parse_dump_orders (header : Header) (written : List (Prototype × List Variable)) (range : header.InRange)
    (each : ∀ prototype ∈ written, prototype.1.Readable header.isStripped prototype.2) :
    (parse (Write.dump header written)).1 = .ok { header, prototypes := written.map Prod.fst } ∧
    (parse (Write.dump header.big written)).1 =
      .ok { header := header.big, prototypes := written.map fun prototype => prototype.1.mirrored } ∧
    (prototypes? (Write.dump header.big written) = prototypes? (Write.dump header written) ↔
      ∀ prototype ∈ written, prototype.1.IsSymmetric) := by
  have little : (parse (Write.dump header written)).1 = .ok { header, prototypes := written.map Prod.fst } := by
    rw [parse_readable range each]
  have big := parse_big range each
  refine ⟨little, big, ?_⟩
  simp only [prototypes?, little, big, Except.toOption, Option.map_some, Option.some.injEq, List.map_inj_left]
  constructor
  · intro same prototype member
    exact (Prototype.mirrored_eq_self_iff (each prototype member)).mp (same prototype member)
  · intro symmetric prototype member
    exact (Prototype.mirrored_eq_self_iff (each prototype member)).mpr (symmetric prototype member)

theorem parse_dump_orders_mixed :
    mixedHeader.InRange ∧ (∀ prototype ∈ mixedDump, prototype.1.Readable mixedHeader.isStripped prototype.2) ∧
    (parse (Write.dump mixedHeader.big mixedDump)).1 = .ok
      { header := mixedHeader.big, prototypes := mixedDump.map fun prototype => prototype.1.mirrored } ∧
    (prototypes? (Write.dump mixedHeader.big mixedDump) = prototypes? (Write.dump mixedHeader mixedDump) ↔
      ∀ prototype ∈ mixedDump, prototype.1.IsSymmetric) := by
  have header : mixedHeader.InRange := by decide
  have inRange : ∀ prototype ∈ mixedDump, prototype.1.InRange mixedHeader.isStripped prototype.2 := by
    decide +kernel
  have readable := fun prototype member => (inRange prototype member).readable
  have orders := parse_dump_orders mixedHeader mixedDump header readable
  exact ⟨header, readable, orders.2⟩

-- A function that returns at once, with one upvalue and lines of two bytes each.
def returning : Prototype where
  frameSize := 1
  debugSize := 5
  firstLine := 1
  lineCount := 256
  code := [0x0001004B]
  upvalueData := [0x8002]
  lineInfo := [3]
  upvalueNames := ["a"]

def returningDump : List (Prototype × List Variable) := [measured false returning []]

def plainHeader : Header := { version, flags := 0, sourceName := "@a" }

theorem returningDump_reversed :
    plainHeader.InRange ∧
    (∀ prototype ∈ returningDump, prototype.1.InRange plainHeader.isStripped prototype.2) ∧
    prototypes? (Write.dump plainHeader.big returningDump) = some
      [{ (measured false returning []).1 with
          code := [0x4B000100]
          upvalueData := [0x0280]
          lineInfo := [0x0300] }] ∧
    prototypes? (Write.dump plainHeader.big returningDump) ≠ prototypes? (Write.dump plainHeader returningDump) := by
  decide +kernel

end LuaBytecode.Jit
