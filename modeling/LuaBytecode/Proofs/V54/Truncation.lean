import LuaBytecode.Proofs.Composition
import LuaBytecode.Proofs.OptionalTail
import LuaBytecode.Proofs.V54.Recording
/-!
Chunks of version 5.4 that are cut off. A string takes what is left at the end of the file, and the
name of the last upvalue of the main function is the last thing in it. A file that is cut in front of
that name is rejected; one that is cut within it is read, with the part of the name that is left.
-/
namespace LuaBytecode.V54

open Reader Text

def rewordLast (text : String) : List (Option String) → List (Option String)
  | [] => []
  | [name] => [name.map fun _ => text]
  | name :: other :: names => name :: rewordLast text (other :: names)

def Function.lastName (each : Function) : Option String := each.upvalueNames.getLast?.join

def Function.reworded (text : String) (each : Function) : Function :=
  { each with upvalueNames := rewordLast text each.upvalueNames }

def Chunk.lastName (chunk : Chunk) : Option String := chunk.main.top.lastName

def Chunk.reworded (text : String) (chunk : Chunk) : Chunk :=
  { chunk with main := .node (chunk.main.top.reworded text) chunk.main.inner }

namespace Read

theorem starves_size : Starves size := by
  intro input nothing
  exact ⟨.width 1, { input with pos := input.pos + 0, rest := [] }, by simp [size, scanning, nothing, scan]⟩

theorem starves_string : Starves string := starves_bind starves_size

theorem starves_counted {α : Type} {reader : Reader α} : Starves (counted reader) := starves_bind starves_size

theorem starves_noted {α : Type} {reader : Reader α} (starves : Starves reader) : Starves (noted false reader) :=
  starves_bind starves

theorem needsAll_fixedWidth (width : Nat) : NeedsAll (fixedWidth width) := by
  refine optionalTail_bind (optionalTail_takeUpTo width) ?_ fun _ => needsAll_of_settled settledLaw.fixed
  intro _ slack cut shorter known less input _
  obtain ⟨_, same, bound⟩ := known
  have short : ¬ shorter.length = width := by
    rw [same]
    omega
  exact ⟨.width width, input, by simp [fixed, short, fail]⟩

theorem needsAll_byte : NeedsAll byte := needsAll_fixedWidth 1

theorem needsAll_integer : NeedsAll integer := optionalTail_after (needsAll_fixedWidth 8) fun _ => needsAll_pure

theorem needsAll_number : NeedsAll number := optionalTail_after (needsAll_fixedWidth 8) fun _ => needsAll_pure

theorem needsAll_size : NeedsAll size := needsAll_of_settled (settled_scanning fun _ => trivial)

theorem needsAll_instruction : NeedsAll instruction := optionalTail_after (needsAll_fixedWidth 4) fun _ => needsAll_pure

theorem needsAll_line : NeedsAll line := optionalTail_after needsAll_byte fun _ => needsAll_pure

theorem optionalTail_string : OptionalTail string (fun text slack cut shorter =>
    text.getD "" = Utf8.decodeReplacing slack ∧ shorter = text.map fun _ => Utf8.decodeReplacing cut) := by
  refine optionalTail_after needsAll_size fun size => ?_
  split
  · exact optionalTail_pure ⟨rfl, rfl⟩
  · refine optionalTail_after (needsAll_of_settled settledLaw.require) fun _ => ?_
    apply optionalTail_map (optionalTail_takeUpTo (size - 1))
    rintro _ slack _ cut ⟨rfl, rfl, _⟩
    exact ⟨rfl, rfl⟩

theorem mayEndEarly_constant : MayEndEarly constant := by
  refine optionalTail_after needsAll_byte fun tag => ?_
  dsimp only
  split
  · exact mayEndEarly_of_optionalTail needsAll_pure
  · exact mayEndEarly_of_optionalTail needsAll_pure
  · split
    · exact optionalTail_map needsAll_number fun _ _ _ _ _ => trivial
    · exact optionalTail_map needsAll_integer fun _ _ _ _ _ => trivial
  · exact optionalTail_map optionalTail_string fun _ _ _ _ _ => trivial
  · exact optionalTail_fail

theorem mayEndEarly_counted {α : Type} {reader : Reader α} (known : MayEndEarly reader) (starves : Starves reader) :
    MayEndEarly (counted reader) :=
  optionalTail_after needsAll_size fun count => mayEndEarly_times known starves count

theorem optionalTail_noted {α : Type} {reader : Reader α} {becomes : α → Bytes → Bytes → α → Prop}
    (known : OptionalTail reader becomes) :
    OptionalTail (noted false reader) (fun found slack cut shorter =>
      becomes found.1 slack cut shorter.1 ∧ found.2 = none ∧ shorter.2 = none) := by
  apply optionalTail_map known
  intro _ _ _ _ became
  exact ⟨became, rfl, rfl⟩

theorem needsAll_noted {α : Type} {reader : Reader α} (known : NeedsAll reader) : NeedsAll (noted false reader) := by
  apply optionalTail_map known
  rintro value slack cut _ ⟨nothing, empty, rfl⟩
  exact ⟨nothing, empty, rfl⟩

theorem mayEndEarly_noted {α : Type} {reader : Reader α} (known : MayEndEarly reader) :
    MayEndEarly (noted false reader) :=
  mayEndEarly_of_optionalTail (optionalTail_noted known)

theorem needsAll_upvalue : NeedsAll (upvalue false) := by
  have fields : NeedsAll (do
      let inStack ← byte
      let index ← byte
      let kind ← byte
      pure (inStack, index, kind)) :=
    optionalTail_after needsAll_byte fun _ => optionalTail_after needsAll_byte fun _ =>
      optionalTail_after needsAll_byte fun _ => needsAll_pure
  exact optionalTail_after (needsAll_noted fields) fun _ => needsAll_pure

theorem needsAll_absLine : NeedsAll (absLine false) := by
  have fields : NeedsAll (do
      let pc ← size
      let line ← size
      pure (pc, line)) :=
    optionalTail_after needsAll_size fun _ => optionalTail_after needsAll_size fun _ => needsAll_pure
  exact optionalTail_after (needsAll_noted fields) fun _ => needsAll_pure

-- The name of a local variable has its range behind it, so it cannot come short.
theorem needsAll_localVariable : NeedsAll (localVariable false) := by
  have fields : NeedsAll (do
      let name ← string
      let startPc ← size
      let endPc ← size
      pure (name, startPc, endPc)) :=
    optionalTail_bind optionalTail_string (fun _ _ _ _ _ _ => starves_bind starves_size) fun _ =>
      optionalTail_after needsAll_size fun _ => optionalTail_after needsAll_size fun _ => needsAll_pure
  exact optionalTail_after (needsAll_noted fields) fun _ => needsAll_pure

theorem optionalTail_upvalueNames : OptionalTail (counted string) (fun names slack cut shorter =>
    names.getLast?.join.getD "" = Utf8.decodeReplacing slack ∧
      shorter = rewordLast (Utf8.decodeReplacing cut) names) := by
  refine optionalTail_after needsAll_size fun count => ?_
  have names := @optionalTail_times _ string _ (fun names slack cut shorter =>
    names.getLast?.join.getD "" = Utf8.decodeReplacing slack ∧
      shorter = rewordLast (Utf8.decodeReplacing cut) names) optionalTail_string starves_string
  refine optionalTail_mono (names ⟨rfl, rfl⟩ ?_ ?_ count) fun _ _ _ _ known => known.2
  · rintro text slack cut _ ⟨content, rfl⟩
    exact ⟨content, rfl⟩
  · rintro head first tail slack cut _ ⟨content, rfl⟩
    exact ⟨content, rfl⟩

theorem optionalTail_debug : OptionalTail (debug false) (fun found slack cut shorter =>
    found.upvalueNames.getLast?.join.getD "" = Utf8.decodeReplacing slack ∧
      shorter = { found with upvalueNames := rewordLast (Utf8.decodeReplacing cut) found.upvalueNames }) := by
  have lineInfo := mayEndEarly_counted (mayEndEarly_of_optionalTail needsAll_line) (starves_bind starves_byte)
  have absLineInfo := mayEndEarly_counted (mayEndEarly_of_optionalTail needsAll_absLine)
    (starves_bind (starves_noted (starves_bind starves_size)))
  have locals := mayEndEarly_counted (mayEndEarly_of_optionalTail needsAll_localVariable)
    (starves_bind (starves_noted (starves_bind starves_string)))
  refine optionalTail_bind lineInfo (fun _ _ _ _ _ _ => starves_bind starves_counted) fun lineInfo => ?_
  refine optionalTail_bind absLineInfo (fun _ _ _ _ _ _ => starves_bind starves_counted) fun absLineInfo => ?_
  refine optionalTail_bind locals (fun _ _ _ _ _ _ => starves_bind starves_counted) fun locals => ?_
  apply optionalTail_map optionalTail_upvalueNames
  rintro names slack cut _ ⟨content, rfl⟩
  exact ⟨content, rfl⟩

theorem starves_debug : Starves (debug false) := starves_bind starves_counted

theorem mayEndEarly_code : MayEndEarly (noted false (counted instruction)) :=
  mayEndEarly_noted (mayEndEarly_counted (mayEndEarly_of_optionalTail needsAll_instruction)
    (starves_bind (starves_fixedWidth (by decide))))

theorem mayEndEarly_constants : MayEndEarly (noted false (counted constant)) :=
  mayEndEarly_noted (mayEndEarly_counted mayEndEarly_constant (starves_bind starves_byte))

theorem mayEndEarly_upvalues : MayEndEarly (noted false (counted (upvalue false))) :=
  mayEndEarly_noted (mayEndEarly_counted (mayEndEarly_of_optionalTail needsAll_upvalue)
    (starves_bind (starves_noted (starves_bind starves_byte))))

theorem starves_prototypeWithin (depth : Nat) (parent : Option String) :
    Starves (prototypeWithin false depth parent) := by
  cases depth with
  | zero => exact fun input _ => ⟨.nesting, input, rfl⟩
  | succ depth => exact starves_bind (starves_noted starves_string)

-- Behind every section but the last there is one more to read.
theorem optionalTail_prototypeWithin (depth : Nat) (parent : Option String) :
    OptionalTail (prototypeWithin false depth parent) (fun tree slack cut shorter =>
      tree.top.lastName.getD "" = Utf8.decodeReplacing slack ∧
        shorter = .node (tree.top.reworded (Utf8.decodeReplacing cut)) tree.inner) := by
  induction depth generalizing parent with
  | zero => exact optionalTail_fail
  | succ depth ih =>
    have lineNext : ∀ {β : Type} {next : Nat × Option Bytes → Reader β}, Starves (noted false size >>= next) :=
      starves_bind (starves_noted starves_size)
    have listNext : ∀ {α β : Type} {reader : Reader α} {next : List α × Option Bytes → Reader β},
        Starves (noted false (counted reader) >>= next) :=
      starves_bind (starves_noted starves_counted)
    refine optionalTail_bind (optionalTail_noted optionalTail_string) (fun _ _ _ _ _ _ => lineNext) fun source => ?_
    refine optionalTail_after (needsAll_noted needsAll_size) fun lineDefined => ?_
    refine optionalTail_after (needsAll_noted needsAll_size) fun lastLineDefined => ?_
    refine optionalTail_after (needsAll_noted needsAll_byte) fun paramCount => ?_
    refine optionalTail_after (needsAll_noted needsAll_byte) fun varargFlag => ?_
    refine optionalTail_after (needsAll_noted needsAll_byte) fun maxStackSize => ?_
    refine optionalTail_bind mayEndEarly_code (fun _ _ _ _ _ _ => listNext) fun code => ?_
    refine optionalTail_bind mayEndEarly_constants (fun _ _ _ _ _ _ => listNext) fun constants => ?_
    refine optionalTail_bind mayEndEarly_upvalues (fun _ _ _ _ _ _ => lineNext) fun upvalues => ?_
    refine optionalTail_after (needsAll_noted needsAll_size) fun innerCount => ?_
    have forest := mayEndEarly_times (mayEndEarly_of_optionalTail (ih (source.1.orElse fun _ => parent)))
      (starves_prototypeWithin depth _) innerCount.1
    refine optionalTail_bind forest (fun _ _ _ _ _ _ => starves_bind (starves_noted starves_debug)) fun inner => ?_
    apply optionalTail_map (optionalTail_noted optionalTail_debug)
    rintro ⟨found, _⟩ slack cut ⟨shorter, _⟩ ⟨⟨content, cutOff⟩, _⟩
    dsimp only at content cutOff
    subst cutOff
    exact ⟨content, rfl⟩

theorem mayEndEarly_forest (depth count : Nat) (parent : Option String) :
    MayEndEarly (times count (prototypeWithin false depth parent)) :=
  mayEndEarly_times (mayEndEarly_of_optionalTail (optionalTail_prototypeWithin depth parent))
    (starves_prototypeWithin depth parent) count

theorem agree_prototypeWithin (depth : Nat) (parent : Option String) :
    Agree depth (prototypeWithin false depth parent) (prototypeWithin false (depth + 1) parent) := by
  induction depth generalizing parent with
  | zero => exact fun _ impossible => absurd impossible (Nat.not_lt_zero _)
  | succ depth ih =>
    refine agree_step (yields_nonempty_of_optionalTail (optionalTail_noted optionalTail_string)
      (starves_noted starves_string)) ?_
    intro source
    refine agree_after (yields_of_optionalTail (needsAll_noted needsAll_size)) fun lineDefined => ?_
    refine agree_after (yields_of_optionalTail (needsAll_noted needsAll_size)) fun lastLineDefined => ?_
    refine agree_after (yields_of_optionalTail (needsAll_noted needsAll_byte)) fun paramCount => ?_
    refine agree_after (yields_of_optionalTail (needsAll_noted needsAll_byte)) fun varargFlag => ?_
    refine agree_after (yields_of_optionalTail (needsAll_noted needsAll_byte)) fun maxStackSize => ?_
    refine agree_after (yields_of_optionalTail mayEndEarly_code) fun code => ?_
    refine agree_after (yields_of_optionalTail mayEndEarly_constants) fun constants => ?_
    refine agree_after (yields_of_optionalTail mayEndEarly_upvalues) fun upvalues => ?_
    refine agree_after (yields_of_optionalTail (needsAll_noted needsAll_size)) fun innerCount => ?_
    have passes : ∀ parent, Yields depth (prototypeWithin false depth parent) (fun _ _ => True) :=
      fun parent => yields_of_optionalTail (optionalTail_prototypeWithin depth parent)
    refine agree_bind (agree_times (ih _) (passes _) innerCount.1)
      (yields_of_optionalTail (mayEndEarly_forest depth _ _)) ?_
    exact fun inner _ _ => agree_refl _

theorem needsAll_sayLine {text : String} : NeedsAll (sayLine text) := needsAll_of_settled settled_say

-- A part of the signature is not the signature, and behind the fixed bytes there are more.
theorem needsAll_header : NeedsAll header := by
  refine optionalTail_after needsAll_sayLine fun _ => optionalTail_after needsAll_sayLine fun _ =>
    optionalTail_after needsAll_sayLine fun _ => ?_
  refine optionalTail_bind (optionalTail_takeUpTo 4) ?_ fun found => ?_
  · intro _ slack cut shorter known less input _
    obtain ⟨_, same, bound⟩ := known
    have short : shorter ≠ signature := by
      intro whole
      rw [same] at whole
      rw [whole] at less
      exact absurd bound (Nat.not_le_of_lt less)
    refine ⟨.notLua, input, bind_of_error ?_⟩
    simp [require, short, fail]
  refine optionalTail_after (needsAll_of_settled settledLaw.require) fun _ =>
    optionalTail_after needsAll_sayLine fun _ => ?_
  refine optionalTail_after needsAll_byte fun foundVersion => ?_
  refine optionalTail_after (needsAll_of_settled settledLaw.require) fun _ =>
    optionalTail_after needsAll_sayLine fun _ => ?_
  refine optionalTail_after needsAll_byte fun format => ?_
  refine optionalTail_bind (optionalTail_takeUpTo 6) (fun _ _ _ _ _ _ => starves_say (starves_bind starves_byte))
    fun data => ?_
  refine optionalTail_after needsAll_sayLine fun _ => optionalTail_after needsAll_byte fun instructionWidth => ?_
  refine optionalTail_after needsAll_byte fun integerWidth => optionalTail_after needsAll_byte fun numberWidth => ?_
  refine optionalTail_after needsAll_sayLine fun _ => optionalTail_after needsAll_integer fun testInteger => ?_
  refine optionalTail_after needsAll_number fun testNumber => optionalTail_after needsAll_sayLine fun _ => ?_
  exact optionalTail_after needsAll_sayLine fun _ => needsAll_pure

theorem optionalTail_chunk : OptionalTail (chunk false) (fun chunk slack cut shorter =>
    chunk.lastName.getD "" = Utf8.decodeReplacing slack ∧ shorter = chunk.reworded (Utf8.decodeReplacing cut)) := by
  refine optionalTail_after needsAll_header fun header => optionalTail_after needsAll_byte fun upvalueCount => ?_
  refine optionalTail_after needsAll_sayLine fun _ => ?_
  apply optionalTail_map (optionalTail_nested (fun depth => agree_prototypeWithin depth (some ""))
    fun depth => optionalTail_prototypeWithin depth (some ""))
  rintro main slack cut _ ⟨content, rfl⟩
  exact ⟨content, rfl⟩

end Read

theorem parse_cases (record : Bool) (file : Bytes) :
    (∃ found plain after, parse record file = (.ok found, after) ∧ parse false file = (.ok plain, after) ∧
      found.bare = plain.bare) ∨
    ∃ fault after, parse record file = (.error fault, after) ∧ parse false file = (.error fault, after) := by
  cases record with
  | true =>
    rcases abreast_chunk { rest := file } with ⟨found, plain, _, after, ran, otherRan, _, _, same, _⟩ | failed
    · exact .inl ⟨found, plain, after, ran, otherRan, same⟩
    · exact .inr failed
  | false =>
    cases outcome : parse false file with
    | mk result after =>
      cases result with
      | ok chunk => exact .inl ⟨chunk, chunk, after, rfl, rfl, rfl⟩
      | error fault => exact .inr ⟨fault, after, rfl, rfl⟩

theorem lastName_bare (chunk : Chunk) : chunk.bare.lastName = chunk.lastName := by
  obtain ⟨header, count, function, inner⟩ := chunk
  rfl

theorem reworded_bare (text : String) (chunk : Chunk) : (chunk.reworded text).bare = chunk.bare.reworded text := by
  obtain ⟨header, count, function, inner⟩ := chunk
  rfl

theorem decodeReplacing_eq_empty {bytes : Bytes} (empty : Utf8.decodeReplacing bytes = "") : bytes = [] := by
  by_cases nothing : bytes = []
  · exact nothing
  · have encoded := Utf8.encode_decodeReplacing_ne_nil nothing
    rw [empty] at encoded
    exact absurd rfl encoded

theorem parse_cut {file : Bytes} {chunk : Chunk} {after : Input} (record : Bool)
    (accepted : parse record file = (.ok chunk, after)) (consumed : after.rest = []) :
    ∃ front tail, file = front ++ tail ∧ chunk.lastName.getD "" = Utf8.decodeReplacing tail ∧
      (∀ cut more, front = cut ++ more → more ≠ [] →
        ∃ fault later, parse record cut = (.error fault, later)) ∧
      ∀ cut more, tail = cut ++ more → ∃ shorter later,
        parse record (front ++ cut) = (.ok shorter, later) ∧
          shorter.bare = (chunk.reworded (Utf8.decodeReplacing cut)).bare := by
  obtain ⟨plain, ran, same⟩ : ∃ plain, parse false file = (.ok plain, after) ∧ chunk.bare = plain.bare := by
    rcases parse_cases record file with ⟨found, plain, _, ran, plainRan, same⟩ | ⟨_, _, failed, _⟩
    · rw [accepted] at ran
      cases ran
      exact ⟨plain, plainRan, same⟩
    · rw [accepted] at failed
      cases failed
  obtain ⟨front, tail, start, _, _, short, loose⟩ := Read.optionalTail_chunk { rest := file } plain after ran
  rw [consumed, List.append_nil] at start
  refine ⟨front, tail, start, ?_, ?_, ?_⟩
  · obtain ⟨_, _, _, _, content, _⟩ := loose tail [] (List.append_nil tail).symm
    rw [← lastName_bare, same, lastName_bare, content]
  · intro cut more joined missing
    obtain ⟨fault, later, failed⟩ := short cut more joined missing
    rcases parse_cases record cut with ⟨_, _, _, _, plainRan, _⟩ | ⟨fault, later, ran, _⟩
    · exact absurd (plainRan.symm.trans failed) (by simp)
    · exact ⟨fault, later, ran⟩
  · intro cut more joined
    obtain ⟨shorter, later, done, _, _, rfl⟩ := loose cut more joined
    rcases parse_cases record (front ++ cut) with ⟨found, _, _, ran, plainRan, alike⟩ | ⟨_, _, _, failed⟩
    · obtain ⟨rfl, rfl⟩ : plain.reworded (Utf8.decodeReplacing cut) = _ ∧ later = _ := by
        simpa using done.symm.trans plainRan
      exact ⟨found, later, ran, by rw [alike, reworded_bare, reworded_bare, same]⟩
    · exact absurd (done.symm.trans failed) (by simp)

theorem prefix_rejected_iff {record : Bool} {file : Bytes} {chunk : Chunk} {after : Input}
    (accepted : parse record file = (.ok chunk, after)) (consumed : after.rest = []) :
    ((∀ size < file.length, ∃ fault later, parse record (file.take size) = (.error fault, later)) ↔
      chunk.lastName.getD "" = "") ∧
    ∃ front tail, file = front ++ tail ∧ chunk.lastName.getD "" = Utf8.decodeReplacing tail ∧
      ∀ size < file.length,
        (size < front.length → ∃ fault later, parse record (file.take size) = (.error fault, later)) ∧
        (front.length ≤ size → ∃ shorter later, parse record (file.take size) = (.ok shorter, later) ∧
          shorter.bare = (chunk.reworded (Utf8.decodeReplacing (tail.take (size - front.length)))).bare) := by
  obtain ⟨front, tail, rfl, content, short, loose⟩ := parse_cut record accepted consumed
  have rejected : ∀ size < front.length,
      ∃ fault later, parse record ((front ++ tail).take size) = (.error fault, later) := by
    intro size before
    rw [List.take_append_of_le_length (Nat.le_of_lt before)]
    apply short (front.take size) (front.drop size) (List.take_append_drop size front).symm
    exact List.ne_nil_of_length_pos (by rw [List.length_drop]; omega)
  have read : ∀ size, front.length ≤ size → ∃ shorter later,
      parse record ((front ++ tail).take size) = (.ok shorter, later) ∧
        shorter.bare = (chunk.reworded (Utf8.decodeReplacing (tail.take (size - front.length)))).bare := by
    intro size behind
    rw [List.take_append, List.take_of_length_le behind]
    exact loose _ _ (List.take_append_drop (size - front.length) tail).symm
  refine ⟨⟨?_, ?_⟩, front, tail, rfl, content, fun size _ => ⟨rejected size, read size⟩⟩
  · intro always
    by_cases nothing : tail = []
    · rw [content, nothing]
      rfl
    · have within : front.length < (front ++ tail).length := by
        have positive := List.length_pos_iff.mpr nothing
        rw [List.length_append]
        omega
      obtain ⟨_, _, failed⟩ := always front.length within
      obtain ⟨_, _, done, _⟩ := read front.length (Nat.le_refl _)
      rw [failed] at done
      cases done
  · intro unnamed size within
    obtain rfl := decodeReplacing_eq_empty (content.symm.trans unnamed)
    exact rejected size (by simpa using within)

-- A main function with nothing in it but the names of two upvalues, the last in three bytes.
def namedUpvalues : Bytes :=
  Write.header ++ [0, 0x80, 0x80, 0x80, 0, 0, 2, 0x80, 0x80, 0x80, 0x80, 0x80, 0x80, 0x80,
    0x82, 0x82, 0x61, 0x84, 0x62, 0xC3, 0xA9]

theorem namedUpvalues_consumed : (parse true namedUpvalues).2.rest = [] := by decide +kernel

theorem prefix_rejected_iff_namedUpvalues :
    ∃ chunk after, parse true namedUpvalues = (.ok chunk, after) ∧ after.rest = [] ∧
      ((∀ size < namedUpvalues.length,
        ∃ fault later, parse true (namedUpvalues.take size) = (.error fault, later)) ↔
        chunk.lastName.getD "" = "") ∧
      ∃ front tail, namedUpvalues = front ++ tail ∧ chunk.lastName.getD "" = Utf8.decodeReplacing tail ∧
        ∀ size < namedUpvalues.length,
          (size < front.length →
            ∃ fault later, parse true (namedUpvalues.take size) = (.error fault, later)) ∧
          (front.length ≤ size → ∃ shorter later, parse true (namedUpvalues.take size) = (.ok shorter, later) ∧
            shorter.bare =
              (chunk.reworded (Utf8.decodeReplacing (tail.take (size - front.length)))).bare) := by
  have functions : seen (fun chunk => chunk.main.toList.length) namedUpvalues = some 1 := by
    decide +kernel
  obtain ⟨chunk, after, accepted, _⟩ := parse_of_seen functions
  have consumed := namedUpvalues_consumed
  rw [accepted] at consumed
  exact ⟨chunk, after, accepted, consumed, prefix_rejected_iff accepted consumed⟩

theorem cut_name_accepted :
    ∃ chunk after shorter later, parse true namedUpvalues = (.ok chunk, after) ∧ after.rest = [] ∧
      chunk.main.top.upvalueNames = [some "a", some "bé"] ∧
      parse true (namedUpvalues.take (namedUpvalues.length - 2)) = (.ok shorter, later) ∧
      shorter.main.top.upvalueNames = [some "a", some "b"] := by
  have whole : seen (fun chunk => chunk.main.top.upvalueNames) namedUpvalues = some [some "a", some "bé"] := by
    decide +kernel
  have cut : seen (fun chunk => chunk.main.top.upvalueNames) (namedUpvalues.take (namedUpvalues.length - 2)) =
      some [some "a", some "b"] := by
    decide +kernel
  obtain ⟨chunk, after, accepted, names⟩ := parse_of_seen whole
  obtain ⟨shorter, later, read, shorterNames⟩ := parse_of_seen cut
  have consumed := namedUpvalues_consumed
  rw [accepted] at consumed
  exact ⟨chunk, after, shorter, later, accepted, consumed, names, read, shorterNames⟩

end LuaBytecode.V54
