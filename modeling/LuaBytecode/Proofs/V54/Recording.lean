import LuaBytecode.Proofs.V54.Accepted

namespace LuaBytecode.V54

open Reader

def Chunk.bare (chunk : Chunk) : Chunk := { chunk with main := V54.bare chunk.main }

theorem abreast_chunk :
    Abreast (Read.chunk true) (Read.chunk false) (fun found value passed =>
      found.bare = value.bare ∧ ∃ header count spanned, header.length = 31 ∧
        span found.main = some spanned ∧ passed = header ++ ([count] ++ spanned)) := by
  refine abreast_bind (abreast_self fun _ => Read.yields_header) ?_
  rintro header _ headerBytes ⟨rfl, long⟩
  refine abreast_bind (abreast_self fun _ => Read.yields_fixedWidth 1) ?_
  rintro upvalueCount _ countBytes ⟨rfl, single, _⟩
  obtain ⟨count, rfl⟩ := List.length_eq_one_iff.mp single
  refine abreast_bind (abreast_self fun _ => Read.yields_sayLine) ?_
  rintro _ _ _ ⟨_, rfl⟩
  refine abreast_bind (abreast_nested fun depth => Gather.abreast_prototype false depth (some "")) ?_
  rintro main other spanned ⟨same, kept, _⟩
  apply abreast_pure
  constructor
  · simp only [Chunk.bare, same]
  · exact ⟨headerBytes, count, spanned, long, kept, by simp⟩

theorem recording_changes_nothing_else (file : Bytes) :
    (parse true file).2 = (parse false file).2 ∧
      (parse true file).1.map Chunk.bare = (parse false file).1.map Chunk.bare := by
  rcases abreast_chunk { rest := file } with ⟨found, value, _, after, ran, otherRan, _, _, same, _⟩ | failed
  · rw [parse, parse, ran, otherRan]
    exact ⟨rfl, congrArg Except.ok same⟩
  · obtain ⟨fault, after, ran, otherRan⟩ := failed
    rw [parse, parse, ran, otherRan]
    exact ⟨rfl, rfl⟩

theorem recorded_sections_tile_file {file : Bytes} {chunk : Chunk} {after : Input}
    (accepted : parse true file = (.ok chunk, after)) :
    ∃ count spanned, span chunk.main = some spanned ∧ 31 ≤ file.length ∧
      file = file.take 31 ++ ([count] ++ (spanned ++ after.rest)) ∧ after.rest = file.drop after.pos := by
  rcases abreast_chunk { rest := file } with ⟨found, _, _, _, ran, _, start, pos, _, known⟩ | failed
  · obtain ⟨header, count, spanned, long, kept, rfl⟩ := known
    rw [parse, ran] at accepted
    cases accepted
    have whole : file = header ++ ([count] ++ (spanned ++ after.rest)) := by simpa using start
    have front : file.take 31 = header := by rw [whole, ← long, List.take_left]
    refine ⟨count, spanned, kept, ?_, ?_, ?_⟩
    · rw [whole, List.length_append]
      omega
    · rwa [front]
    · have dropped := congrArg (List.drop after.pos) start
      rw [pos, Nat.zero_add, List.drop_left] at dropped
      rw [pos, Nat.zero_add, dropped]
  · obtain ⟨fault, _, ran, _⟩ := failed
    rw [parse, ran] at accepted
    cases accepted

-- A function inside another, debug sections of seven bytes, and two bytes that nothing reads.
def nestedWithRest : Bytes :=
  Write.header ++ [0, 0x82, 0x78, 0x80, 0x80, 0, 0, 2, 0x00, 0x81, 0x51, 0, 0, 0, 0x81, 0x11, 0x80, 0x81,
    0x80, 0x80, 0x80, 0, 0, 2, 0x80, 0x80, 0x80, 0x80, 0x80, 0x80, 0x80, 0x80,
    0x81, 5, 0x80, 0x80, 0x81, 0x82, 0x61] ++ [0xFF, 0]

theorem recorded_sections_tile_nestedWithRest :
    ∃ chunk after, parse true nestedWithRest = (.ok chunk, after) ∧
      ∃ count spanned, span chunk.main = some spanned ∧ 31 ≤ nestedWithRest.length ∧
        nestedWithRest = nestedWithRest.take 31 ++ ([count] ++ (spanned ++ after.rest)) ∧
        after.rest = nestedWithRest.drop after.pos := by
  have functions : seen (fun chunk => chunk.main.toList.length) nestedWithRest = some 2 := by
    decide +kernel
  obtain ⟨chunk, after, accepted, _⟩ := parse_of_seen functions
  exact ⟨chunk, after, accepted, recorded_sections_tile_file accepted⟩

end LuaBytecode.V54
