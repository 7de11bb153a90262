import LuaBytecode.V54.Writing
/-!
Encryption of the code that functions keep: the bytes behind the size are combined with the key,
over and over, by exclusive or. The same step encrypts and decrypts.
-/
namespace LuaBytecode.V54

variable {τ : Type}

namespace Cipher

def onBytes (key : Bytes) : (index : Nat) → Bytes → Bytes
  | _, [] => []
  | index, byte :: bytes =>
    (byte ^^^ (key[index % key.length]?).getD 0) :: onBytes key (index + 1) bytes

-- Instructions of four bytes one after another; the last may have fewer.
def onInstructions (key : Bytes) : (index : Nat) → Bytes → Bytes
  | index, first :: second :: third :: fourth :: bytes =>
    onBytes key index [first, second, third, fourth] ++ onInstructions key (index + 4) bytes
  | index, short => onBytes key index short

def apply (key payload : Bytes) : Bytes := onInstructions key 0 payload

-- The bytes up to the first whose high bit is set, which spell the size, and the others.
def splitSize : Bytes → Bytes × Bytes
  | [] => ([], [])
  | byte :: bytes =>
    if 128 ≤ byte.toNat then ([byte], bytes)
    else
      let (size, payload) := splitSize bytes
      (byte :: size, payload)

def onCode (key kept : Bytes) : Bytes :=
  let (size, payload) := splitSize kept
  size ++ apply key payload

def onRecording (key : Bytes) (recording : Recording) : Recording :=
  match recording.get? .code with
  | some kept => recording.set .code (onCode key kept)
  | none => recording

def onFunction (key : Bytes) (function : Function τ) : Function τ :=
  { function with recorded := function.recorded.map (onRecording key) }

def onTree (key : Bytes) (tree : Prototype τ) : Prototype τ := tree.map (onFunction key)

end Cipher

structure Session (τ : Type := String) where
  main : Option (Prototype τ) := none
  record : Bool := true
  key : Option Bytes := none
  keyed : Bool := false
deriving DecidableEq, Repr

namespace Session

def setKey (session : Session τ) (key : Bytes) : Session τ :=
  { session with key := some key, keyed := true }

def usableKey? (session : Session τ) : Option Bytes :=
  match session.key with
  | some [] => none
  | key => key

def encryptData (session : Session τ) (payload : Bytes) : Except Fault Bytes :=
  match session.usableKey? with
  | some key => .ok (Cipher.apply key payload)
  | none => .error .noEncryptionKey

def decryptData (session : Session τ) (payload : Bytes) : Except Fault Bytes :=
  match session.usableKey? with
  | some key => .ok (Cipher.apply key payload)
  | none => .error .noDecryptionKey

def cipher (session : Session τ) : Session τ :=
  match session.keyed, session.usableKey? with
  | true, some key => { session with main := session.main.map (Cipher.onTree key) }
  | _, _ => session

def writeEncrypted [Text.Encoding τ] (session : Session τ) (key : Bytes) : Session τ × Emission :=
  let next := (session.setKey key).cipher
  (next, write next.main)

end Session

end LuaBytecode.V54
