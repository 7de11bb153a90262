namespace LuaBytecode.Text

def times (count : Int) (text : String) : String := String.join (List.replicate count.toNat text)

def padRight (width : Nat) (text : String) : String := text ++ times (width - text.length) " "

def padLeft (width : Nat) (text : String) : String := times (width - text.length) " " ++ text

def padZero (width : Nat) (text : String) : String := times (width - text.length) "0" ++ text

def decimal (n : Int) : String := toString n

def hexLower (n : Nat) : String := String.ofList (Nat.toDigits 16 n)

def hexUpper (n : Int) : String :=
  (if n < 0 then "-" else "") ++ String.ofList ((Nat.toDigits 16 n.natAbs).map Char.toUpper)

def hexPadded (width : Nat) (n : Int) : String :=
  if n < 0 then "-" ++ padZero (width - 1) (hexLower n.natAbs) else padZero width (hexLower n.natAbs)

def lines (rows : List String) : String := String.join (rows.map (· ++ "\n"))

end LuaBytecode.Text
