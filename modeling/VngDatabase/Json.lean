import Mathlib

/-!
# JSON values

Values as they are read from a text and written to one. The members of an object stand in the order
of their names, each name once.
-/

namespace VngDatabase

inductive JsonNumber
  | posInt (n : Fin (2 ^ 64))
  | negInt (n : Fin (2 ^ 63))
  | float (bits : Fin (2 ^ 64))
  deriving DecidableEq

def JsonNumber.beq : JsonNumber → JsonNumber → Bool
  | .float a, .float b => a = b || (a.val % 2 ^ 63 = 0 && b.val % 2 ^ 63 = 0)
  | a, b => a = b

inductive Json
  | null
  | bool (b : Bool)
  | number (n : JsonNumber)
  | string (s : String)
  | array (items : List Json)
  | object (members : List (String × Json))

namespace Json

mutual

def beq : Json → Json → Bool
  | .null, .null => true
  | .bool a, .bool b => a = b
  | .number a, .number b => a.beq b
  | .string a, .string b => a = b
  | .array items, .array items' => beqItems items items'
  | .object members, .object members' => beqMembers members members'
  | _, _ => false

def beqItems : List Json → List Json → Bool
  | [], [] => true
  | a :: items, b :: items' => beq a b && beqItems items items'
  | _, _ => false

def beqMembers : List (String × Json) → List (String × Json) → Bool
  | [], [] => true
  | (k, a) :: members, (k', b) :: members' => k = k' && beq a b && beqMembers members members'
  | _, _ => false

end

def asU64 : Json → Option (Fin (2 ^ 64))
  | .number (.posInt n) => some n
  | _ => none

def get? : Json → String → Option Json
  | .object members, name => (members.find? fun member => member.1 = name).map Prod.snd
  | _, _ => none

def insertMember (members : List (String × Json)) (name : String) (value : Json) :
    List (String × Json) :=
  members.filter (fun member => member.1 < name) ++
    (name, value) :: members.filter fun member => name < member.1

def removeMember (members : List (String × Json)) (name : String) : List (String × Json) :=
  members.filter fun member => member.1 ≠ name

end Json

end VngDatabase
