import DocFilter.Json.Basic

/-!
# Equal documents

Two JSON values are equal when they differ at most in how their numbers are spelled: numbers are
compared by their exact decimal value, arrays item by item, objects key by key in any order.
-/

namespace DocFilter
namespace Json

mutual

/-- Equality of values up to the spelling of numbers. -/
def equiv : Json → Json → Bool
  | null, null => true
  | bool a, bool b => a == b
  | number m, number n => m.toDecimal == n.toDecimal
  | string s, string t => s == t
  | array xs, array ys => equivItems xs ys
  | object xs, object ys => xs.length == ys.length && equivMembers xs ys
  | _, _ => false
termination_by structural v => v

/-- Equality of arrays, item by item. -/
def equivItems : List Json → List Json → Bool
  | [], [] => true
  | x :: xs, y :: ys => equiv x y && equivItems xs ys
  | _, _ => false
termination_by structural xs => xs

/-- Whether every member on the left has an equal one under its key on the right. -/
def equivMembers : List (String × Json) → List (String × Json) → Bool
  | [], _ => true
  | (key, x) :: xs, ys =>
    (match ys.lookup key with
      | some y => equiv x y
      | none => false) && equivMembers xs ys
termination_by structural xs => xs

end

end Json
end DocFilter
