/-
String literals of SQL.

A literal is written between quotes, with quotes inside doubled; if there is a backslash
in it, it is written as an escape string, with backslashes doubled as well.  The writer
has a buffer of a given length and gives up when it does not suffice; that is the shape
C programs have it in.  Whatever it writes, the reader reads back.
-/
import Mathlib.Data.Option.Basic

namespace SqlLiteral

/-- How the loop over a string ends. -/
inductive Written
  | done (text : List UInt8)
  | failed
  /-- There is a backslash, so an escape string is needed. -/
  | retry
  deriving DecidableEq

/-- Write a string behind what is written already. -/
def writeLoop (ext : Bool) (limit : Nat) : List UInt8 → List UInt8 → Written
  | dst, [] => if limit < dst.length then .failed else .done (dst ++ [39])
  | dst, c :: src =>
    if limit ≤ dst.length then .failed
    else if c = 39 then writeLoop ext limit (dst ++ [39, 39]) src
    else if c = 92 then
      if ext then writeLoop ext limit (dst ++ [92, 92]) src else .retry
    else writeLoop ext limit (dst ++ [c]) src

/-- Write a literal into a buffer of `dstlen` bytes, the last of which ends the text. -/
def write (dstlen : Nat) (src : List UInt8) : Option (List UInt8) :=
  if dstlen < 3 then none
  else
    match writeLoop false (dstlen - 2) [39] src with
    | .done text => some text
    | .failed => none
    | .retry =>
      match writeLoop true (dstlen - 2) [69, 39] src with
      | .done text => some text
      | _ => none

/-- Read a literal behind its first quote. -/
def readBody (ext : Bool) : List UInt8 → Option (List UInt8)
  | [] => none
  | [c] => if c = 39 then some [] else none
  | c :: d :: rest =>
    if c = 39 then if d = 39 then (readBody ext rest).map (39 :: ·) else none
    else if ext = true ∧ c = 92 then
      if d = 92 then (readBody ext rest).map (92 :: ·) else none
    else (readBody ext (d :: rest)).map (c :: ·)

/-- Read a literal. -/
def read : List UInt8 → Option (List UInt8)
  | 39 :: rest => readBody false rest
  | 69 :: 39 :: rest => readBody true rest
  | _ => none

theorem readBody_writeLoop {ext : Bool} {limit : Nat} {src dst text : List UInt8}
    (h : writeLoop ext limit dst src = .done text) :
    ∃ body, text = dst ++ body ∧ readBody ext body = some src := by
  induction src generalizing dst with
  | nil =>
    rw [writeLoop] at h
    split at h
    · cases h
    · cases h
      exact ⟨[39], rfl, rfl⟩
  | cons c src ih =>
    rw [writeLoop] at h
    split at h
    · cases h
    split at h
    · rename_i hquote
      obtain ⟨body, rfl, hbody⟩ := ih h
      exact ⟨39 :: 39 :: body, by simp, by simp [readBody, hbody, hquote]⟩
    rename_i hquote
    split at h
    · rename_i hback
      split at h
      · rename_i hext
        obtain ⟨body, rfl, hbody⟩ := ih h
        subst hext
        exact ⟨92 :: 92 :: body, by simp, by simp [readBody, hbody, hback]⟩
      · cases h
    · rename_i hback
      obtain ⟨body, rfl, hbody⟩ := ih h
      -- what is behind the byte is not empty, so the byte is not the last
      cases body with
      | nil => cases hbody
      | cons d rest => exact ⟨c :: d :: rest, by simp, by simp [readBody, hbody, hquote, hback]⟩

/-- **What is written is read back.** -/
theorem read_write {dstlen : Nat} {src text : List UInt8} (h : write dstlen src = some text) :
    read text = some src := by
  unfold write at h
  split at h
  · cases h
  split at h
  · rename_i hdone
    cases h
    obtain ⟨body, rfl, hbody⟩ := readBody_writeLoop hdone
    exact hbody
  · cases h
  · split at h
    · rename_i hdone
      cases h
      obtain ⟨body, rfl, hbody⟩ := readBody_writeLoop hdone
      exact hbody
    · cases h

end SqlLiteral
