import LuaBytecode.Proofs.Sample.Shape
import LuaBytecode.Proofs.V54.Reading
import LuaBytecode.Sample.V54
import LuaBytecode.V54.Instruction

namespace LuaBytecode.Sample.V54

open LuaBytecode.V54 Reader Text

-- The operands k, B and C as one number.
def upper (index : Nat) : Nat := index % 2 + 3 * index % 256 * 2 + 7 * index % 256 * 2 ^ 9

def operands (index : Nat) : Mode → Operands
  | .abc => .abc (index % 256) (3 * index % 256) (index % 2) (7 * index % 256)
  | .abx => .abx (index % 256) (upper index)
  | .asbx => .asbx (index % 256) (upper index - 0xFFFF)
  | .ax => .ax (index % 256 + upper index * 2 ^ 8)
  | .sj => .sj ((index % 256 + upper index * 2 ^ 8 : Nat) - 0xFFFFFF)

def decoded (shift : Int) (index : Nat) : Decoded where
  raw := word shift index
  opcode := opcode shift index
  name := opcodeName (opcode shift index)
  operands := (opcodes[opcode shift index]?).map fun entry => operands index entry.2

def code (function : Function) : List Decoded := function.code.map decode

theorem opcode_lt (shift : Int) (index : Nat) : opcode shift index < 83 := by
  unfold opcode
  omega

theorem word_lt (shift : Int) (index : Nat) : word shift index < 2 ^ 32 := by
  have opcode := opcode_lt shift index
  unfold word
  omega

theorem field_word (shift : Int) (index : Nat) :
    field (word shift index) 0 7 = opcode shift index ∧ field (word shift index) 7 8 = index % 256 ∧
      field (word shift index) 15 1 = index % 2 ∧ field (word shift index) 16 8 = 3 * index % 256 ∧
      field (word shift index) 24 8 = 7 * index % 256 ∧ field (word shift index) 15 17 = upper index ∧
      field (word shift index) 7 25 = index % 256 + upper index * 2 ^ 8 := by
  have opcode := opcode_lt shift index
  have a : index % 256 < 256 := Nat.mod_lt _ (by decide)
  have k : index % 2 < 2 := Nat.mod_lt _ (by decide)
  have b : 3 * index % 256 < 256 := Nat.mod_lt _ (by decide)
  have c : 7 * index % 256 < 256 := Nat.mod_lt _ (by decide)
  unfold field word upper
  generalize index % 256 = a at *
  generalize index % 2 = k at *
  generalize 3 * index % 256 = b at *
  generalize 7 * index % 256 = c at *
  refine ⟨?_, ?_, ?_, ?_, ?_, ?_, ?_⟩ <;> omega

theorem decode_word (shift : Int) (index : Nat) : decode (word shift index) = decoded shift index := by
  obtain ⟨number, a, k, b, c, bx, ax⟩ := field_word shift index
  have operandsFound : ∀ mode, operandsOf (word shift index) mode = operands index mode := by
    intro mode
    cases mode <;> simp only [operandsOf, operands, a, k, b, c, bx, ax]
  simp only [decode, decoded, number, operandsFound]

theorem sizeBytes_eq (n : Nat) : sizeBytes n = Wire.size n := by
  have groups : ∀ n, highGroups n = Wire.groups n := by
    intro n
    fun_induction highGroups n with
    | case1 => rw [Wire.groups_zero]
    | case2 n positive ih => rw [Wire.groups, if_neg positive, ih]
  rw [sizeBytes, Wire.size, groups]

theorem of_size {n : Int} {bytes : Bytes} (built : size n = .ok bytes) : 0 ≤ n ∧ bytes = Wire.size n.toNat := by
  unfold size at built
  split at built
  · cases built
  · refine ⟨by omega, ?_⟩
    rw [← Except.ok.inj built, sizeBytes_eq]

theorem string_eq (text : Option String) : string text = Wire.string (text.map Utf8.encode) := by
  cases text with
  | none => exact sizeBytes_eq 0
  | some text =>
    rw [string, sizeBytes_eq]
    rfl

variable {layout : Layout}

theorem consumes_instruction (shift : Int) (index : Nat) :
    Consumes layout Read.instruction (Bytes.ofNat 4 (word shift index))
      (fun found => decode found = decoded shift index) := by
  have same : (UInt32.ofNat (word shift index)).toNat = word shift index :=
    UInt32.toNat_ofNat_of_lt' (word_lt shift index)
  have known := @Read.consumes_instruction layout (UInt32.ofNat (word shift index))
  rw [Wire.word, same] at known
  apply consumes_mono known
  rintro _ rfl
  exact decode_word shift index

theorem contentFits_encode {text : String} (short : (Utf8.encode text).length < 2 ^ 63) :
    Wire.ContentFits (some (Utf8.encode text)) := by
  rintro _ ⟨⟩
  exact short

def usual : List Wire.Constant :=
  [.nil, .bool false, .bool true, .num 0x400921F9F01B866E, .int 424242, .str false (some (Utf8.encode "hello")),
    .str true (some (Utf8.encode (String.ofList (List.replicate 60 'L'))))]

-- Those behind them, with the bare types as their tags.
def bareTags : List Bytes :=
  [[0x01], 0x03 :: Bytes.ofNat 8 (0x4004000000000000 : UInt64).toNat, 0x04 :: Wire.string (some (Utf8.encode "base"))]

theorem constants_eq : constants = (usual.map Wire.Constant.bytes ++ bareTags).flatMap id := by
  simp only [constants, usual, bareTags, string_eq, List.map_cons, List.map_nil, List.flatMap_cons, List.flatMap_nil,
    id, List.append_assoc, List.cons_append, List.nil_append, List.append_nil]
  rfl

theorem consumes_usual : ∀ each ∈ usual, Consumes layout Read.constant each.bytes (fun _ => True) := by
  have fits : ∀ each ∈ usual, each.Fits := by
    simp only [usual, List.forall_mem_cons]
    refine ⟨trivial, trivial, trivial, trivial, trivial, contentFits_encode (by decide), contentFits_encode ?_, nofun⟩
    have char : (Utf8.encodeChar 'L').length = 1 := by decide
    simp [Utf8.encode, char]
  intro each member
  exact consumes_mono (Read.consumes_constant each (fits each member)) fun _ _ => trivial

theorem consumes_bareTags : ∀ span ∈ bareTags, Consumes layout Read.constant span (fun _ => True) := by
  simp only [bareTags, List.forall_mem_cons]
  refine ⟨?_, ?_, ?_, nofun⟩
  · refine consumes_map (Read.consumes_byte 0x01) ?_
    rintro _ rfl
    exact consumes_pure trivial
  · refine consumes_bind (Read.consumes_byte 0x03) ?_
    rintro _ rfl
    refine consumes_map (Read.consumes_number 0x4004000000000000) fun _ _ => ?_
    exact consumes_pure trivial
  · refine consumes_bind (Read.consumes_byte 0x04) ?_
    rintro _ rfl
    refine consumes_map (Read.consumes_string _ (@contentFits_encode "base" (by decide))) fun _ _ => ?_
    exact consumes_pure trivial

theorem consumes_constants :
    Consumes layout (Read.counted Read.constant) (Wire.size 10 ++ constants) (fun _ => True) := by
  have each : ∀ span ∈ usual.map Wire.Constant.bytes ++ bareTags,
      Consumes layout Read.constant span (fun _ => () = ()) := by
    intro span member
    rcases List.mem_append.mp member with mapped | bareTag
    · obtain ⟨constant, among, rfl⟩ := List.mem_map.mp mapped
      exact consumes_mono (consumes_usual constant among) fun _ _ => rfl
    · exact consumes_mono (consumes_bareTags span bareTag) fun _ _ => rfl
  have known := @Read.consumes_counted layout _ _ _ Read.constant (fun _ => ()) (fun _ => ()) id _ (by decide) each
  rw [Wire.counted, ← constants_eq] at known
  exact consumes_mono known fun _ _ => trivial

def debugOf (length : Nat) : Wire.Function where
  source := none
  lineDefined := 0
  lastLineDefined := 0
  paramCount := 0
  varargFlag := 0
  maxStackSize := 0
  code := Wire.codeSection 0 []
  constants := []
  upvalues := []
  lineInfo := (List.range length).map fun index => UInt8.ofNat (index % 127)
  absLineInfo := [⟨5, 10⟩, ⟨12, 40⟩]
  locals := [⟨some (Utf8.encode "a"), 0, UInt64.ofNat length⟩, ⟨some (Utf8.encode "b"), 1, UInt64.ofNat length⟩]
  upvalueNames := [some (Utf8.encode "_ENV"), some (Utf8.encode "up1")]

theorem fits_debugOf {length : Nat} (small : length < 2 ^ 64) : (debugOf length).Fits := by
  refine ⟨nofun, ⟨0, [], by decide, rfl⟩, ⟨by simp [debugOf], nofun⟩, by simp [debugOf], ?_, by simp [debugOf], ?_, ?_⟩
  · simpa [debugOf] using small
  · refine ⟨by simp [debugOf], ?_⟩
    simp only [debugOf, List.forall_mem_cons]
    exact ⟨contentFits_encode (by decide), contentFits_encode (by decide), nofun⟩
  · refine ⟨by simp [debugOf], ?_⟩
    simp only [debugOf, List.forall_mem_cons]
    exact ⟨contentFits_encode (by decide), contentFits_encode (by decide), nofun⟩

theorem of_function {length innerCount depth shift : Int} {source : Option String} {inner : List Bytes} {bytes : Bytes}
    (small : length < 2 ^ 64) (built : function length innerCount source depth shift inner = .ok bytes) :
    0 ≤ length ∧ 0 ≤ innerCount ∧
      bytes = Wire.string (source.map Utf8.encode) ++ (Wire.size (1 + depth).toNat ++ (Wire.size (200 + depth).toNat ++
        ([1] ++ ([1] ++ ([6] ++
          (Wire.counted (fun index => Bytes.ofNat 4 (word shift index)) (indices length) ++
            ((Wire.size 10 ++ constants) ++ (Wire.counted Wire.Upvalue.bytes [⟨1, 0, 0⟩, ⟨0, 1, 0⟩] ++
              (Wire.size innerCount.toNat ++ (inner.flatMap id ++ (debugOf length.toNat).back)))))))))) := by
  obtain ⟨first, firstSize, built⟩ := ok_of_except_bind built
  obtain ⟨last, lastSize, built⟩ := ok_of_except_bind built
  obtain ⟨count, countSize, built⟩ := ok_of_except_bind built
  obtain ⟨innerSize, innerSized, built⟩ := ok_of_except_bind built
  obtain ⟨_, rfl⟩ := of_size firstSize
  obtain ⟨_, rfl⟩ := of_size lastSize
  obtain ⟨positive, rfl⟩ := of_size countSize
  obtain ⟨some, rfl⟩ := of_size innerSized
  have allBytes := Except.ok.inj built
  refine ⟨positive, some, ?_⟩
  rw [← allBytes]
  have pc : (UInt64.ofNat length.toNat).toNat = length.toNat := UInt64.toNat_ofNat_of_lt' (by
    change length.toNat < 2 ^ 64
    omega)
  simp [Wire.counted, Wire.Function.back, debugOf, Wire.AbsLine.bytes, Wire.Local.bytes, Wire.Upvalue.bytes,
    sizeBytes_eq, string_eq, pc, indices]

theorem consumes_function (record : Bool) (room : Nat) (parent : Option String) {length innerCount depth shift : Int}
    {source : Option String} {inner : List Bytes} {bytes : Bytes} {shape : Tree (List Decoded)}
    (built : function length innerCount source depth shift inner = .ok bytes) (small : length < 2 ^ 64)
    (few : innerCount < 2 ^ 64) (shallow : depth < 2 ^ 32) (named : Wire.ContentFits (source.map Utf8.encode))
    (many : inner.length = innerCount.toNat)
    (within : ∀ parent, ∀ bytes ∈ inner,
      Consumes layout (Read.prototypeWithin record room parent) bytes (fun found => found.map code = shape)) :
    Consumes layout (Read.prototypeWithin record (room + 1) parent) bytes
      (fun found => found.map code =
        .node ((indices length).map (decoded shift)) (List.replicate innerCount.toNat shape)) := by
  obtain ⟨positive, some, spelled⟩ := of_function small built
  have count : (indices length).length < 2 ^ 64 := by
    rw [length_indices]
    omega
  rw [spelled]
  refine consumes_bind (Read.consumes_noted record (Read.consumes_string _ named)) fun _ _ => ?_
  refine consumes_bind (Read.consumes_noted record (Read.consumes_size _ (by omega))) fun _ _ => ?_
  refine consumes_bind (Read.consumes_noted record (Read.consumes_size _ (by omega))) fun _ _ => ?_
  refine consumes_bind (Read.consumes_noted record (Read.consumes_byte 1)) fun _ _ => ?_
  refine consumes_bind (Read.consumes_noted record (Read.consumes_byte 1)) fun _ _ => ?_
  refine consumes_bind (Read.consumes_noted record (Read.consumes_byte 6)) fun _ _ => ?_
  refine consumes_bind (Read.consumes_noted record (Read.consumes_counted (indices length) count
    fun index _ => consumes_instruction shift index)) ?_
  rintro ⟨instructions, _⟩ ⟨read, _⟩
  refine consumes_bind (Read.consumes_noted record consumes_constants) fun _ _ => ?_
  refine consumes_bind (Read.consumes_noted record (Read.consumes_counted _ (by decide)
    fun upvalue _ => Read.consumes_upvalue record upvalue)) fun _ _ => ?_
  refine consumes_bind (Read.consumes_noted record (Read.consumes_size innerCount.toNat (by omega))) ?_
  rintro ⟨_, _⟩ ⟨rfl, _⟩
  dsimp only
  rw [← many]
  refine consumes_bind (consumes_times inner (within _)) ?_
  intro forest shapes
  have debug := @Read.consumes_debug layout record (debugOf length.toNat) (fits_debugOf (by omega))
  refine consumes_map (Read.consumes_noted record debug) fun _ _ => ?_
  apply consumes_pure
  rw [Tree.map, Tree.mapForest_eq, shapes, code, read, List.map_const']

theorem consumes_prototype (record : Bool) (parent : Option String) {length innerCount shift : Int} {bytes : Bytes}
    (small : length < 2 ^ 64) (few : innerCount < 2 ^ 64)
    (built : prototype length innerCount (some "@bench.lua") 0 shift = .ok bytes) :
    Consumes layout (Read.prototype record parent) bytes
      (fun found => found.map code = plan (decoded shift) length innerCount) := by
  obtain ⟨inner, builtInner, built⟩ := ok_of_except_bind built
  have smaller : innerLength length < 2 ^ 64 := by
    unfold innerLength
    omega
  apply consumes_nested_once
  · obtain ⟨_, _, spelled⟩ := of_function small built
    rw [spelled]
    simp only [List.length_append, List.length_singleton]
    omega
  intro depth
  apply consumes_function record (depth + 1) parent built small few (by decide) (contentFits_encode (by decide))
    List.length_replicate
  intro parent bytes member
  rw [List.eq_of_mem_replicate member]
  exact @consumes_function layout record depth parent _ _ _ _ _ _ _ (.node [] []) builtInner smaller (by decide)
    (by decide) nofun rfl nofun

theorem consumes_chunk (record : Bool) {length innerCount shift : Int} {main : Bytes} (small : length < 2 ^ 64)
    (few : innerCount < 2 ^ 64) (built : prototype length innerCount (some "@bench.lua") 0 shift = .ok main) :
    Consumes layout (Read.chunk record) (Write.header ++ ([1] ++ main))
      (fun found => found.main.map code = plan (decoded shift) length innerCount) := by
  rw [Read.chunk_eq]
  refine consumes_bind Read.consumes_header fun _ _ => ?_
  refine consumes_bind (Read.consumes_byte 1) fun _ _ => ?_
  refine consumes_ahead (consumes_say _) fun _ _ => ?_
  refine consumes_map (consumes_prototype record (some "") small few built) ?_
  intro found known
  exact consumes_pure known

theorem exhausts_chunk (record : Bool) {length innerCount shift : Int} {bytes : Bytes} (small : length < 2 ^ 64)
    (few : innerCount < 2 ^ 64) (built : chunk length innerCount shift = .ok bytes) :
    Exhausts (parse record bytes) bytes
      (fun found => found.main.map code = plan (decoded shift) length innerCount) := by
  obtain ⟨main, madeMain, built⟩ := ok_of_except_bind built
  rw [← Except.ok.inj built, List.append_assoc]
  exact exhausts_of_enters (enters_of_consumes (consumes_chunk record small few madeMain))

end LuaBytecode.Sample.V54
