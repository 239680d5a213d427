/-
What is written to an auth_file is what is read from it.

A name or a password may hold anything but a zero byte: newlines and semicolons mean
nothing between quotes, and a quote is doubled.  `find_quote` steps over doubled quotes, so
it stops at the quote that was written last; this needs that no other quote follows it, and
a blank or the end of the line does.  The file is a list of lines, and the induction is on
them, with the white space that `load_auth_file` has still to skip in front.
-/
import PgBouncer.Proofs.Reload

namespace PgBouncer

/-! ### Quoting -/

/-- Inner quotes are doubled. -/
def doubled (s : Bytes) : Bytes := s.flatMap fun c => if c = ch '"' then [c, c] else [c]

theorem doubled_cons (c : UInt8) (s : Bytes) :
    doubled (c :: s) = (if c = ch '"' then [c, c] else [c]) ++ doubled s := List.flatMap_cons

theorem findQuote_doubled (s : Bytes) {rest : Bytes} (hrest : rest.head? ≠ some (ch '"')) :
    findQuote (doubled s ++ ch '"' :: rest) = some (doubled s, rest) := by
  induction s with
  | nil =>
    show findQuote (ch '"' :: rest) = some ([], rest)
    rw [findQuote.eq_def]
    dsimp only
    rw [if_pos rfl]
    cases rest with
    | nil => rfl
    | cons c rest =>
      have hc : c ≠ ch '"' := fun heq => hrest (congrArg some heq)
      dsimp only
      rw [if_neg hc]
  | cons c s ih =>
    rw [doubled_cons]
    by_cases hc : c = ch '"'
    · simp only [if_pos hc, List.cons_append, List.nil_append]
      rw [findQuote.eq_def]
      simp only [if_pos hc, ih, Option.map_some]
    · simp only [if_neg hc, List.cons_append, List.nil_append]
      rw [findQuote.eq_def]
      simp only [if_neg hc, ih, Option.map_some]

theorem copyQuoted_doubled (s : Bytes) : copyQuoted (doubled s) = s := by
  induction s with
  | nil => rfl
  | cons c s ih =>
    rw [doubled_cons]
    by_cases hc : c = ch '"'
    · simp only [if_pos hc, List.cons_append, List.nil_append]
      rw [copyQuoted.eq_def]
      simp only [if_pos hc, ih]
    · simp only [if_neg hc, List.cons_append, List.nil_append]
      rw [copyQuoted.eq_def]
      simp only [if_neg hc, ih]

theorem mem_doubled {s : Bytes} {b : UInt8} (h : b ∈ doubled s) : b ∈ s := by
  obtain ⟨c, hc, hb⟩ := List.mem_flatMap.mp h
  split_ifs at hb <;> simp at hb <;> rwa [hb]

/-! ### Files -/

inductive FileLine
  /-- A user and a password, with some white space between them. -/
  | user (name gap passwd : Bytes)
  | comment (text : Bytes)
  | blank (spaces : Bytes)

namespace FileLine

def text : FileLine → Bytes
  | user name gap passwd =>
    ch '"' :: (doubled name ++ ch '"' :: (gap ++ ch '"' :: (doubled passwd ++ [ch '"'])))
  | comment text => ch ';' :: text
  | blank spaces => spaces

def entry : FileLine → Option (Bytes × Bytes)
  | user name _ passwd => some (name, passwd)
  | _ => none

def Valid : FileLine → Prop
  | user name gap passwd => 0 ∉ name ∧ 0 ∉ passwd ∧ (doubled name).length < maxUsername ∧
    (doubled passwd).length < maxPassword ∧ gap ≠ [] ∧ ∀ c ∈ gap, isSpace c
  | comment text => 0 ∉ text ∧ ch '\n' ∉ text
  | blank spaces => ∀ c ∈ spaces, isSpace c

/-- Lines with newlines between them; an empty one at the end gives a last newline. -/
def file : List FileLine → Bytes
  | [] => []
  | [l] => l.text
  | l :: ls => l.text ++ ch '\n' :: file ls

theorem file_cons (l : FileLine) (ls : List FileLine) :
    ∃ newline, (∀ c ∈ newline, c = ch '\n') ∧ file (l :: ls) = l.text ++ (newline ++ file ls) ∧
      (newline ++ file ls).dropWhile (· != ch '\n') = newline ++ file ls ∧
      (newline ++ file ls).head? ≠ some (ch '"') := by
  cases ls with
  | nil => exact ⟨[], by simp, by simp [file], rfl, by simp [file]⟩
  | cons l' ls => exact ⟨[ch '\n'], by simp, rfl, rfl, by simp [ch]⟩

theorem zero_not_mem_text {l : FileLine} (h : l.Valid) : 0 ∉ l.text := by
  have hspace : ∀ {s : Bytes}, (∀ c ∈ s, isSpace c) → 0 ∉ s :=
    fun hs hmem => absurd (hs 0 hmem) (by decide)
  have hquote : (0 : UInt8) ≠ ch '"' := by decide
  cases l with
  | user name gap passwd =>
    obtain ⟨hname, hpasswd, -, -, -, hgap⟩ := h
    have hname' : 0 ∉ doubled name := fun hmem => hname (mem_doubled hmem)
    have hpasswd' : 0 ∉ doubled passwd := fun hmem => hpasswd (mem_doubled hmem)
    simp [text, hquote, hname', hpasswd', hspace hgap]
  | comment text =>
    have hsemi : (0 : UInt8) ≠ ch ';' := by decide
    simp [FileLine.text, hsemi, h.1]
  | blank spaces => exact hspace h

theorem cString_file {ls : List FileLine} (h : ∀ l ∈ ls, l.Valid) :
    cString (file ls) = file ls := by
  have hzero : 0 ∉ file ls := by
    induction ls with
    | nil => exact List.not_mem_nil
    | cons l ls ih =>
      obtain ⟨hl, hls⟩ := List.forall_mem_cons.mp h
      obtain ⟨newline, hnewline, heq, -⟩ := file_cons l ls
      rw [heq]
      simp only [List.mem_append, not_or]
      exact ⟨zero_not_mem_text hl, fun hmem => absurd (hnewline 0 hmem) (by decide), ih hls⟩
  exact List.takeWhile_eq_self_iff.mpr fun c hc => bne_iff_ne.mpr fun heq => hzero (heq ▸ hc)

theorem authFileLine_user {name gap passwd rest : Bytes} (h : (user name gap passwd).Valid)
    (hrest : rest.head? ≠ some (ch '"')) :
    authFileLine (doubled name ++ ch '"' :: (gap ++ ch '"' :: (doubled passwd ++ [ch '"'])) ++
      rest) = some ((name, passwd), rest) := by
  obtain ⟨-, -, hname, hpasswd, hne, hspaces⟩ := h
  have hgap : ∀ c ∈ gap, (c != ch '"') = true := by
    intro c hc
    refine bne_iff_ne.mpr fun heq => ?_
    have hspace := hspaces c hc
    rw [heq] at hspace
    exact nomatch hspace
  have hnext : (gap ++ ch '"' :: (doubled passwd ++ ch '"' :: rest)).head? ≠ some (ch '"') := by
    obtain ⟨c, gap, rfl⟩ := List.exists_cons_of_ne_nil hne
    simpa using bne_iff_ne.mp (hgap c List.mem_cons_self)
  simp only [List.append_assoc, List.cons_append, List.nil_append]
  unfold authFileLine
  rw [findQuote_doubled name hnext]
  simp only [bind, Option.bind]
  rw [if_neg (by omega), List.dropWhile_append_of_pos hgap, List.dropWhile_cons, if_neg (by simp)]
  dsimp only
  rw [findQuote_doubled passwd hrest]
  dsimp only
  rw [if_neg (by omega), copyQuoted_doubled, copyQuoted_doubled]

/-- Each line that is not blank takes one turn of the loop. -/
theorem authFileEntries_file {ls : List FileLine} (h : ∀ l ∈ ls, l.Valid) {fuel : Nat}
    (hfuel : (ls.flatMap text).length ≤ fuel) {space : Bytes} (hspace : ∀ c ∈ space, isSpace c) :
    authFileEntries fuel (space ++ file ls) = ls.filterMap entry := by
  induction ls generalizing fuel space with
  | nil =>
    have hskip : (space ++ file []).dropWhile isSpace = [] := by
      rw [file, List.append_nil]
      exact List.dropWhile_eq_nil_iff.mpr hspace
    cases fuel with
    | zero => rfl
    | succ fuel =>
      rw [authFileEntries, hskip]
      rfl
  | cons l ls ih =>
    obtain ⟨hl, hls⟩ := List.forall_mem_cons.mp h
    obtain ⟨newline, hnewline, heq, hdrop, hhead⟩ := file_cons l ls
    have hnewline' : ∀ c ∈ newline, isSpace c := fun c hc => hnewline c hc ▸ rfl
    rw [List.flatMap_cons, List.length_append] at hfuel
    rw [heq]
    have hskip : ∀ {c : UInt8} {rest : Bytes}, isSpace c = false →
        (space ++ c :: rest).dropWhile isSpace = c :: rest := by
      intro c rest hc
      rw [List.dropWhile_append_of_pos hspace, List.dropWhile_cons, hc]
      rfl
    cases l with
    | blank spaces =>
      rw [text, ← List.append_assoc, ← List.append_assoc]
      refine ih hls (by omega) ?_
      simp only [List.mem_append]
      rintro c ((hc | hc) | hc)
      · exact hspace c hc
      · exact hl c hc
      · exact hnewline' c hc
    | comment text =>
      obtain ⟨fuel, rfl⟩ : ∃ n, fuel = n + 1 :=
        ⟨fuel - 1, by simp only [FileLine.text, List.length_cons] at hfuel; omega⟩
      have hclean : ∀ c ∈ text, (c != ch '\n') = true :=
        fun c hc => bne_iff_ne.mpr fun heq => hl.2 (heq ▸ hc)
      rw [FileLine.text, List.cons_append, authFileEntries, hskip rfl]
      dsimp only
      rw [if_pos rfl, List.dropWhile_append_of_pos hclean, hdrop]
      refine ih hls ?_ hnewline'
      simp only [FileLine.text, List.length_cons] at hfuel
      omega
    | user name gap passwd =>
      obtain ⟨fuel, rfl⟩ : ∃ n, fuel = n + 1 :=
        ⟨fuel - 1, by simp only [text, List.length_cons] at hfuel; omega⟩
      rw [text, List.cons_append, authFileEntries, hskip rfl]
      dsimp only
      rw [if_neg (by decide), if_pos rfl, authFileLine_user hl hhead]
      dsimp only
      rw [hdrop, ih hls ?_ hnewline']
      · rfl
      · simp only [text, List.length_cons] at hfuel
        omega

end FileLine

/-- **An auth_file gives every user the password of its last line.**  Names and passwords are
any bytes but zero that are not too long when their quotes are doubled, and there may be
blank lines and comments between the lines.  The users that are not listed, whichever there
were before, have no password. -/
theorem auth_file_round_trip {ls : List FileLine} (h : ∀ l ∈ ls, l.Valid) (u : Users)
    (name : Bytes) :
    match fileGives (ls.filterMap FileLine.entry) name with
    | some passwd => ∃ cr, (u.loadAuthFile (FileLine.file ls)).find (.user name) = some cr ∧
        cr.passwd = passwd ∧ cr.dynamicPasswd = false
    | none => ∀ cr, (u.loadAuthFile (FileLine.file ls)).find (.user name) = some cr →
        cr.passwd = [] := by
  have hlen : (ls.flatMap FileLine.text).length ≤ (FileLine.file ls).length := by
    clear h
    induction ls with
    | nil => exact Nat.le_refl 0
    | cons l ls ih =>
      obtain ⟨newline, -, heq, -⟩ := FileLine.file_cons l ls
      rw [heq, List.flatMap_cons]
      simp only [List.length_append]
      omega
  have husers : authFileUsers (FileLine.file ls) = ls.filterMap FileLine.entry := by
    rw [authFileUsers, FileLine.cString_file h]
    exact @FileLine.authFileEntries_file ls h _ hlen [] (by simp)
  have hfind := u.loadAuthFile_find (FileLine.file ls) name
  rw [husers] at hfind
  rcases hfind with ⟨passwd, cr, hgives, hfound, hpasswd, hdynamic, -⟩ | ⟨hgives, hfound⟩
  · rw [hgives]
    exact ⟨cr, hfound, hpasswd, hdynamic⟩
  · rw [hgives]
    intro cr hcr
    obtain ⟨old, -, rfl⟩ := Option.map_eq_some_iff.mp (hfound.symm.trans hcr)
    rfl

/-- The password is changed by a later line. -/
theorem auth_file_round_trip_twice :
    ∃ cr, ((⟨fun _ => none⟩ : Users).loadAuthFile (FileLine.file
        [.user [97] [32] [98], .comment [34], .blank [9], .user [97] [32] [34, 10]])).find
        (.user [97]) = some cr ∧ cr.passwd = [34, 10] ∧ cr.dynamicPasswd = false := by
  refine @auth_file_round_trip [.user [97] [32] [98], .comment [34], .blank [9],
    .user [97] [32] [34, 10]] (fun l hl => ?_) ⟨fun _ => none⟩ [97]
  simp only [List.mem_cons, List.not_mem_nil, or_false] at hl
  rcases hl with rfl | rfl | rfl | rfl
  · exact ⟨by decide, by decide, by decide, by decide, by decide, by decide +kernel⟩
  · exact ⟨by decide, by decide⟩
  · exact fun c hc => by simp at hc; rw [hc]; rfl
  · exact ⟨by decide, by decide, by decide, by decide, by decide, by decide +kernel⟩

end PgBouncer
