/-
`strlist_contains` of `util.c`: is a name in a list such as `admin_users`?

The elements of a list stand between commas and blanks.  The list is not taken apart:
`strstr` looks for the name, and only then are the characters on both sides looked at.  If
one of them is part of a longer name, the search goes on behind the second one.
-/
import PgBouncer.Auth.Users

namespace PgBouncer.StrList

/-- `strstr`: what stands in front of the first occurrence, and behind it. -/
def strstr (str : Bytes) : Bytes → Option (Bytes × Bytes)
  | [] => if str = [] then some ([], []) else none
  | c :: rest =>
    if str <+: c :: rest then some ([], (c :: rest).drop str.length)
    else (strstr str rest).map fun (before, behind) => (c :: before, behind)

/-- The characters between two elements. -/
def isSep (c : UInt8) : Bool := isSpace c || c == ch ','

/-- The loop.  `prev` is the character in front of `listpos`, if there is one. -/
def strlistLoop (str : Bytes) : Nat → Option UInt8 → Bytes → Bool
  | 0, _, _ => false
  | turns + 1, prev, listpos =>
    match strstr str listpos with
    | none => false
    | some (before, behind) =>
      -- check previous symbol, and following symbol
      if (before.getLast?.or prev).all isSep && behind.head?.all isSep then true
      else strlistLoop str turns (behind.head?.or str.getLast?) behind.tail

/-- `strlist_contains`.  Every turn leaves less of the list. -/
def strlistContains (liststr str : Bytes) : Bool :=
  if str.length = 0 then false else strlistLoop str (liststr.length + 1) none liststr

end PgBouncer.StrList
