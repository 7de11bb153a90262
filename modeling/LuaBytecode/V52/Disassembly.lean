import LuaBytecode.Text.Layout
import LuaBytecode.V52.Parts
import LuaBytecode.V52.Prototype

namespace LuaBytecode.V52

open Text

def constantText : Constant → Except Fault String
  | .nil => .ok "nil"
  | .bool value => .ok (if value then "true" else "false")
  | .int value =>
    match Double.ofInt? value with
    | some x => .ok (x.general 14)
    | none => .error .intToFloat
  | .num value => .ok (value.general 14)
  | .str text => .ok ("\"" ++ text ++ "\"")
  | .emptyList => .ok "<unknown type: <class 'list'>>"

def r (n : Int) : String := s!"R({n})"

def rk (n : Nat) : String :=
  let operand : Operand := ⟨n⟩
  if operand.isConstant then s!"K({operand.index})" else r n

def operator : Opcode → String
  | .add => "+"
  | .sub => "-"
  | .mul => "*"
  | .div => "/"
  | .mod => "%"
  | .pow => "^"
  | .unm => "-"
  | .not => "not "
  | .len => "#"
  | .eq => "=="
  | .lt => "<"
  | .le => "<="
  | _ => ""

-- The operands of an instruction, and what it does. Jumps are shown with the place they lead to.
def operands (constants : List Constant) (instruction : Instruction) : Except Fault String :=
  let word := parts instruction.word
  let a : Int := word.a
  let b : Int := word.b
  let c : Int := word.c
  let bx := word.bx
  let sbx := word.sbx
  let target := instruction.pc + sbx
  let rkB := rk word.b
  let rkC := rk word.c
  let sign := operator instruction.opcode
  match instruction.opcode with
  | .move => .ok s!"{r a} {r b}                ; {r a} := {r b}"
  | .loadK => do
    let shown ←
      match constants[bx]? with
      | some constant => constantText constant
      | none => .ok "?"
    .ok (s!"{r a} K({bx})               ; {r a} := " ++ shown)
  | .loadKx => .ok s!"{r a}                      ; {r a} := Kst(extra arg)"
  | .extraArg => .ok s!"{word.ax}                        ; extra (larger) argument"
  | .loadBool =>
    let value := if b = 0 then "false" else "true"
    let skip := if c = 0 then "" else s!"; if {c} then pc++"
    .ok s!"{r a} {b} {c}               ; {r a} := {value}{skip}"
  | .loadNil => .ok s!"{r a} {b}                  ; {r a} to {r (a + b)} := nil"
  | .getUpval => .ok s!"{r a} U({b})               ; {r a} := UpValue[{b}]"
  | .getTabUp => .ok s!"{r a} U({b}) {rkC}         ; {r a} := UpValue[{b}][{rkC}]"
  | .getTable => .ok s!"{r a} {r b} {rkC}         ; {r a} := {r b}[{rkC}]"
  | .setTabUp => .ok s!"U({a}) {rkB} {rkC}         ; UpValue[{a}][{rkB}] := {rkC}"
  | .setUpval => .ok s!"{r a} U({b})               ; UpValue[{b}] := {r a}"
  | .setTable => .ok s!"{r a} {rkB} {rkC}         ; {r a}[{rkB}] := {rkC}"
  | .newTable => .ok s!"{r a} {b} {c}               ; {r a} := \x7b\x7d (size = {b},{c})"
  | .self => .ok s!"{r a} {r b} {rkC}         ; {r (a + 1)} := {r b}; {r a} := {r b}[{rkC}]"
  | .add | .sub | .mul | .div | .mod | .pow =>
    .ok s!"{r a} {rkB} {rkC}         ; {r a} := {rkB} {sign} {rkC}"
  | .unm | .not | .len => .ok s!"{r a} {r b}               ; {r a} := {sign}{r b}"
  | .concat => .ok s!"{r a} {r b} {r c}         ; {r a} := {r b}.. ... ..{r c}"
  | .jmp =>
    let close := if 0 < a then s!"; close all upvalues >= {r (a - 1)}" else ""
    .ok s!"{a} {sbx}                   ; pc+={sbx} (to {target}){close}"
  | .eq | .lt | .le =>
    let negation := if a = 0 then "" else "not "
    .ok s!"{a} {rkB} {rkC}           ; if {negation}({rkB} {sign} {rkC}) then pc++"
  | .test =>
    let negation := if c = 0 then "not " else ""
    .ok s!"{r a} {c}                  ; if {negation}{r a} then pc++"
  | .testSet =>
    let negation := if c = 0 then "not " else ""
    .ok s!"{r a} {r b} {c}           ; if {negation}{r b} then {r a} := {r b} else pc++"
  | .call =>
    .ok (s!"{r a} {b} {c}               ; {r a}, ... ,{r (a + c - 2)} := " ++
      s!"{r a}({r (a + 1)}, ... ,{r (a + b - 1)})")
  | .tailCall =>
    .ok s!"{r a} {b} {c}               ; return {r a}({r (a + 1)}, ... ,{r (a + b - 1)})"
  | .ret => .ok s!"{r a} {b}                  ; return {r a}, ... ,{r (a + b - 2)}"
  | .forLoop =>
    .ok (s!"{r a} {sbx}                ; {r a}+={r (a + 2)}; if {r a} <?= {r (a + 1)} then " ++
      s!"\x7b pc+={sbx} (to {target}); {r (a + 3)}={r a} \x7d")
  | .forPrep => .ok s!"{r a} {sbx}                ; {r a}-={r (a + 2)}; pc+={sbx} (to {target})"
  | .tForCall =>
    .ok (s!"{r a} {c}                  ; {r (a + 3)}, ... ,{r (a + 2 + c)} := " ++
      s!"{r a}({r (a + 1)}, {r (a + 2)})")
  | .tForLoop =>
    .ok (s!"{r a} {sbx}                ; if {r (a + 1)} ~= nil then " ++
      s!"\x7b {r a}={r (a + 1)}; pc += {sbx} (to {target}) \x7d")
  | .setList =>
    .ok s!"{r a} {b} {c}               ; {r a}[(C-1)*FPF+i] := R({a}+i), 1 <= i <= B"
  | .closure => .ok s!"{r a} {bx}                 ; {r a} := closure(KPROTO[{bx}])"
  | .vararg =>
    .ok s!"{r a} {b}                  ; {r a}, {r (a + 1)}, ..., {r (a + b - 2)} = vararg"

def disassemble (constants : List Constant) (instruction : Instruction) : Except Fault String := do
  let shown ← operands constants instruction
  .ok (padRight 12 instruction.opcode.name ++ " " ++ shown)

end LuaBytecode.V52
