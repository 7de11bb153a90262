import LuaBytecode.Proofs.V54.Reading
/-!
No two chunks are spelled alike. Each part of a spelling shows where it ends, so that parts in a row
can be told apart one after the other.
-/
namespace LuaBytecode.V54.Wire

open Reader

variable {α : Type}

def Separates (valid : α → Prop) (encode : α → Bytes) : Prop :=
  ∀ {one other : α} {rest later : Bytes}, valid one → valid other →
    encode one ++ rest = encode other ++ later → one = other ∧ rest = later

theorem separates_size : Separates (fun n => n < 2 ^ 64) size := by
  intro one other rest later oneFits otherFits same
  have known := @Read.consumes_size {} one oneFits
  obtain ⟨_, left, n, rfl, rfl⟩ := consumes_unique known (Read.consumes_size other otherFits) same
  exact ⟨rfl, left⟩

theorem separates_long : Separates (fun _ => True) (fun bits : UInt64 => size bits.toNat) := by
  intro one other rest later _ _ same
  obtain ⟨bits, left⟩ := separates_size one.toNat_lt other.toNat_lt same
  exact ⟨UInt64.toNat_inj.mp bits, left⟩

theorem separates_byte : Separates (fun _ => True) (fun byte : UInt8 => [byte]) := by
  intro one other rest later _ _ same
  exact List.cons.inj same

theorem separates_eight : Separates (fun _ => True) (fun bits : UInt64 => Bytes.ofNat 8 bits.toNat) := by
  intro one other rest later _ _ same
  obtain ⟨bytes, left⟩ := List.append_inj same (by rw [Bytes.length_ofNat, Bytes.length_ofNat])
  have bits := congrArg Bytes.toNat bytes
  rw [Read.toNat_eight, Read.toNat_eight] at bits
  exact ⟨UInt64.toNat_inj.mp bits, left⟩

theorem separates_string : Separates ContentFits string := by
  intro one other rest later oneFits otherFits same
  cases one with
  | none =>
    cases other with
    | none => exact ⟨rfl, List.append_cancel_left same⟩
    | some content =>
      -- The size of a text counts one more than its bytes, and zero is left for no text.
      have short := otherFits content rfl
      rw [string, string, List.append_assoc] at same
      obtain ⟨zero, _⟩ := separates_size (by omega) (by omega) same
      cases zero
  | some content =>
    have short := oneFits content rfl
    cases other with
    | none =>
      rw [string, string, List.append_assoc] at same
      obtain ⟨zero, _⟩ := separates_size (by omega) (by omega) same
      cases zero
    | some content' =>
      have short' := otherFits content' rfl
      rw [string, string, List.append_assoc, List.append_assoc] at same
      obtain ⟨lengths, tails⟩ := separates_size (by omega) (by omega) same
      obtain ⟨rfl, left⟩ := List.append_inj tails (Nat.succ.inj lengths)
      exact ⟨rfl, left⟩

theorem separates_code : Separates IsCode id := by
  rintro _ _ rest later ⟨padding, code, bound, rfl⟩ ⟨padding', code', bound', rfl⟩ same
  have known := @Read.consumes_code {} padding code bound
  obtain ⟨bytes, left, _⟩ := consumes_unique known (Read.consumes_code padding' code' bound') same
  exact ⟨bytes, left⟩

theorem separates_flatMap {valid : α → Prop} {encode : α → Bytes} (each : Separates valid encode)
    {one other : List α} {rest later : Bytes} (oneValid : ∀ item ∈ one, valid item)
    (otherValid : ∀ item ∈ other, valid item) (equal : one.length = other.length)
    (same : one.flatMap encode ++ rest = other.flatMap encode ++ later) : one = other ∧ rest = later := by
  induction one generalizing other with
  | nil =>
    cases other with
    | nil => exact ⟨rfl, same⟩
    | cons item other => cases equal
  | cons item one ih =>
    cases other with
    | nil => cases equal
    | cons item' other =>
      rw [List.flatMap_cons, List.flatMap_cons, List.append_assoc, List.append_assoc] at same
      obtain ⟨rfl, tails⟩ := each (oneValid item List.mem_cons_self) (otherValid item' List.mem_cons_self) same
      obtain ⟨rfl, left⟩ := ih (fun next member => oneValid next (List.mem_cons_of_mem _ member))
        (fun next member => otherValid next (List.mem_cons_of_mem _ member)) (Nat.succ.inj equal) tails
      exact ⟨rfl, left⟩

theorem separates_counted {valid : α → Prop} {encode : α → Bytes} (each : Separates valid encode) :
    Separates (fun items => items.length < 2 ^ 64 ∧ ∀ item ∈ items, valid item) (counted encode) := by
  rintro one other rest later ⟨oneBound, oneValid⟩ ⟨otherBound, otherValid⟩ same
  rw [counted, counted, List.append_assoc, List.append_assoc] at same
  obtain ⟨equal, tails⟩ := separates_size oneBound otherBound same
  exact separates_flatMap each oneValid otherValid equal tails

theorem separates_constant : Separates Constant.Fits Constant.bytes := by
  intro one other rest later oneFits otherFits same
  obtain ⟨tags, payloads⟩ := List.cons.inj same
  -- The tags leave only pairs of one kind.
  rcases one with _ | ⟨_ | _⟩ | bits | bits | ⟨_ | _, content⟩ <;>
    rcases other with _ | ⟨_ | _⟩ | bits' | bits' | ⟨_ | _, content'⟩ <;>
    simp [Constant.tag] at tags
  · exact ⟨rfl, payloads⟩
  · exact ⟨rfl, payloads⟩
  · exact ⟨rfl, payloads⟩
  · obtain ⟨rfl, left⟩ := separates_eight trivial trivial payloads
    exact ⟨rfl, left⟩
  · obtain ⟨rfl, left⟩ := separates_eight trivial trivial payloads
    exact ⟨rfl, left⟩
  · obtain ⟨rfl, left⟩ := separates_string oneFits otherFits payloads
    exact ⟨rfl, left⟩
  · obtain ⟨rfl, left⟩ := separates_string oneFits otherFits payloads
    exact ⟨rfl, left⟩

theorem separates_upvalue : Separates (fun _ => True) Upvalue.bytes := by
  rintro ⟨inStack, index, kind⟩ ⟨inStack', index', kind'⟩ rest later _ _ same
  simp only [Upvalue.bytes, List.cons_append, List.nil_append, List.cons.injEq] at same
  obtain ⟨rfl, rfl, rfl, left⟩ := same
  exact ⟨rfl, left⟩

theorem separates_absLine : Separates (fun _ => True) AbsLine.bytes := by
  rintro ⟨pc, line⟩ ⟨pc', line'⟩ rest later _ _ same
  simp only [AbsLine.bytes, List.append_assoc] at same
  obtain ⟨rfl, tails⟩ := separates_long trivial trivial same
  obtain ⟨rfl, left⟩ := separates_long trivial trivial tails
  exact ⟨rfl, left⟩

theorem separates_local : Separates (fun each => ContentFits each.name) Local.bytes := by
  rintro ⟨name, startPc, endPc⟩ ⟨name', startPc', endPc'⟩ rest later nameFits nameFits' same
  simp only [Local.bytes, List.append_assoc] at same
  obtain ⟨rfl, behindName⟩ := separates_string nameFits nameFits' same
  obtain ⟨rfl, behindStart⟩ := separates_long trivial trivial behindName
  obtain ⟨rfl, left⟩ := separates_long trivial trivial behindStart
  exact ⟨rfl, left⟩

theorem front_unique {one other : Function} {rest later : Bytes} (fits : one.Fits) (fits' : other.Fits)
    (same : one.front ++ rest = other.front ++ later) :
    one = { other with
      lineInfo := one.lineInfo
      absLineInfo := one.absLineInfo
      locals := one.locals
      upvalueNames := one.upvalueNames } ∧ rest = later := by
  simp only [Function.front, List.append_assoc] at same
  obtain ⟨source, same⟩ := separates_string fits.source fits'.source same
  obtain ⟨lineDefined, same⟩ := separates_long trivial trivial same
  obtain ⟨lastLineDefined, same⟩ := separates_long trivial trivial same
  obtain ⟨paramCount, same⟩ := separates_byte trivial trivial same
  obtain ⟨varargFlag, same⟩ := separates_byte trivial trivial same
  obtain ⟨maxStackSize, same⟩ := separates_byte trivial trivial same
  obtain ⟨code, same⟩ := separates_code fits.code fits'.code same
  obtain ⟨constants, same⟩ := separates_counted separates_constant fits.constants fits'.constants same
  obtain ⟨upvalues, left⟩ := separates_counted separates_upvalue ⟨fits.upvalues, fun _ _ => trivial⟩
    ⟨fits'.upvalues, fun _ _ => trivial⟩ same
  refine ⟨?_, left⟩
  cases one
  cases other
  simp only [Function.mk.injEq, and_true]
  exact ⟨source, lineDefined, lastLineDefined, paramCount, varargFlag, maxStackSize, code, constants, upvalues⟩

theorem back_unique {one other : Function} {rest later : Bytes} (fits : one.Fits) (fits' : other.Fits)
    (same : one.back ++ rest = other.back ++ later) :
    (one.lineInfo = other.lineInfo ∧ one.absLineInfo = other.absLineInfo ∧ one.locals = other.locals ∧
      one.upvalueNames = other.upvalueNames) ∧ rest = later := by
  simp only [Function.back, List.append_assoc] at same
  obtain ⟨lineInfo, same⟩ := separates_counted separates_byte ⟨fits.lineInfo, fun _ _ => trivial⟩
    ⟨fits'.lineInfo, fun _ _ => trivial⟩ same
  obtain ⟨absLineInfo, same⟩ := separates_counted separates_absLine ⟨fits.absLineInfo, fun _ _ => trivial⟩
    ⟨fits'.absLineInfo, fun _ _ => trivial⟩ same
  obtain ⟨locals, same⟩ := separates_counted separates_local fits.locals fits'.locals same
  obtain ⟨upvalueNames, left⟩ := separates_counted separates_string fits.upvalueNames fits'.upvalueNames same
  exact ⟨⟨lineInfo, absLineInfo, locals, upvalueNames⟩, left⟩

mutual
theorem bytes_unique (one other : Prototype) {rest later : Bytes} (oneFits : one.Every Function.Fits)
    (otherFits : other.Every Function.Fits) (same : bytes one ++ rest = bytes other ++ later) :
    one = other ∧ rest = later := by
  cases one with
  | node each inner =>
    cases other with
    | node each' inner' =>
      obtain ⟨fits, few, forest⟩ := oneFits
      obtain ⟨fits', few', forest'⟩ := otherFits
      simp only [bytes, List.append_assoc] at same
      obtain ⟨front, behindFront⟩ := front_unique fits fits' same
      obtain ⟨equal, behindCount⟩ := separates_size few few' behindFront
      obtain ⟨rfl, behindForest⟩ := forestBytes_unique inner inner' forest forest' equal behindCount
      obtain ⟨⟨lineInfo, absLineInfo, locals, upvalueNames⟩, left⟩ := back_unique fits fits' behindForest
      rw [lineInfo, absLineInfo, locals, upvalueNames] at front
      exact ⟨by rw [front], left⟩
theorem forestBytes_unique (one other : List Prototype) {rest later : Bytes}
    (oneFits : Tree.EveryForest Function.Fits one) (otherFits : Tree.EveryForest Function.Fits other)
    (equal : one.length = other.length) (same : forestBytes one ++ rest = forestBytes other ++ later) :
    one = other ∧ rest = later := by
  cases one with
  | nil =>
    cases other with
    | nil => exact ⟨rfl, same⟩
    | cons tree other => cases equal
  | cons tree one =>
    cases other with
    | nil => cases equal
    | cons tree' other =>
      rw [forestBytes, forestBytes, List.append_assoc, List.append_assoc] at same
      obtain ⟨rfl, tails⟩ := bytes_unique tree tree' oneFits.1 otherFits.1 same
      obtain ⟨rfl, left⟩ := forestBytes_unique one other oneFits.2 otherFits.2 (Nat.succ.inj equal) tails
      exact ⟨rfl, left⟩
end

theorem file_unique (header : Bytes) {one other : Prototype} (oneFits : one.Every Function.Fits)
    (otherFits : other.Every Function.Fits) (same : file header one = file header other) : one = other := by
  rw [file, file] at same
  have tails := (List.cons.inj (List.append_cancel_left same)).2
  have whole : bytes one ++ [] = bytes other ++ [] := congrArg (· ++ []) tails
  exact (bytes_unique one other oneFits otherFits whole).1

end LuaBytecode.V54.Wire
