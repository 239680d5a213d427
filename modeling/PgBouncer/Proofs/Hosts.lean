/-
When the hosts of a list take turns.

The tokens are the entries that are not empty, and there may be fewer of them than the
commas say: then some counters have no host.  And the counter wraps at 65536, which moves
the turn on by one only if the number of entries divides 65536.
-/
import Mathlib.Data.List.Perm.Subperm
import Mathlib.Data.List.Nodup
import Mathlib.Data.Nat.ModEq
import PgBouncer.Hosts

namespace PgBouncer.Hosts

variable {host : Bytes} {pool : Pool} {mode : LoadBalanceHosts}

/-! ### Tokens -/

/-- What stands between the commas. -/
def fields (host : Bytes) : List Bytes := host.splitOnP (· = comma)

/-- The hosts of a list. -/
def entries (host : Bytes) : List Bytes := (fields host).filter (· ≠ [])

theorem length_fields : (fields host).length = count host := by
  induction host with
  | nil => rfl
  | cons c rest ih =>
    rw [fields, count] at *
    rw [List.splitOnP_cons_eq_if_modifyHead, List.count_cons]
    split <;> simp_all
    omega

theorem entries_cons_comma : entries (comma :: host) = entries host := by
  simp [entries, fields, List.splitOnP_cons_eq_if_modifyHead]

theorem entries_dropWhile : entries (host.dropWhile (· = comma)) = entries host := by
  induction host with
  | nil => rfl
  | cons c rest ih =>
    by_cases hc : c = comma
    · rw [hc, List.dropWhile_cons_of_pos (by simp), ih, entries_cons_comma]
    · rw [List.dropWhile_cons_of_neg (by simpa using hc)]

theorem entries_first {first rest : Bytes} (hnot : comma ∉ first) (hne : first ≠ []) :
    entries first = [first] ∧ entries (first ++ comma :: rest) = first :: entries rest := by
  have hall : ∀ x ∈ first, decide (x = comma) = false := fun x hx =>
    decide_eq_false fun heq => hnot (heq ▸ hx)
  rw [entries, entries, fields, fields, List.splitOnP_eq_singleton hall,
    List.splitOnP_append_cons_of_forall_mem hall _ (by simp)]
  simp [hne, entries, fields]

theorem entries_eq : entries host =
    match strtok host with
    | none => []
    | some (first, rest) => first :: entries rest := by
  rw [← entries_dropWhile, strtok]
  cases hstr : host.dropWhile (· = comma) with
  | nil => rfl
  | cons c rest =>
    have hc : c ≠ comma := by simpa [hstr] using List.head?_dropWhile_not (· = comma) host
    have hne : (c :: rest).takeWhile (· ≠ comma) ≠ [] := by simp [hc]
    have hnot : comma ∉ (c :: rest).takeWhile (· ≠ comma) := fun hmem => by
      simpa using List.all_eq_true.mp List.all_takeWhile _ hmem
    have hsplit := List.takeWhile_append_dropWhile (p := (· ≠ comma)) (l := c :: rest)
    have hhead := List.head?_dropWhile_not (· ≠ comma) (c :: rest)
    dsimp only
    cases hrest : (c :: rest).dropWhile (· ≠ comma) with
    | nil =>
      rw [hrest, List.append_nil] at hsplit
      rw [hsplit] at hnot hne ⊢
      exact (@entries_first _ [] hnot hne).1
    | cons x tail =>
      rw [hrest] at hhead
      obtain rfl : x = comma := by simpa using hhead
      rw [hrest] at hsplit
      conv_lhs => rw [← hsplit]
      exact (entries_first hnot hne).2

theorem token_eq {n : Nat} : token n host = (entries host)[n]? := by
  induction n generalizing host with
  | zero =>
    rw [entries_eq, token]
    cases strtok host <;> rfl
  | succ n ih =>
    rw [entries_eq, token]
    cases strtok host with
    | none => rfl
    | some p => exact ih

/-! ### Counters -/

/-- The host with a number. -/
def entry (host : Bytes) (n : Nat) : Option (Nat × Bytes) :=
  (entries host)[n]?.map fun entry => (n, entry)

/-- The number of the host for a counter, which wraps. -/
def turn (host : Bytes) (counter : Nat) : Nat := counter % 2 ^ 16 % count host

/-- The counter that the next connection uses. -/
def next (mode : LoadBalanceHosts) (pool : Pool) : UInt16 :=
  if mode = .disable ∧ pool.lastConnectFailed then pool.rrcounter + 1 else pool.rrcounter

theorem dnsConnect_eq (hcomma : comma ∈ host) :
    dnsConnect mode host pool = (entry host (turn host (next mode pool).toNat),
      { pool with
        rrcounter := if mode = .roundRobin then pool.rrcounter + 1 else next mode pool }) := by
  have hturn : ∀ c : UInt16, turn host c.toNat = c.toNat % count host := fun c => by
    rw [turn, Nat.mod_eq_of_lt c.toNat_lt]
  unfold dnsConnect next entry
  rw [if_pos hcomma, hturn]
  simp only [token_eq]
  cases mode
  · simp only [true_and, reduceCtorEq, if_false]
    split <;> rfl
  · simp

/-- `n` connections, the counter going up with each. -/
def turns (host : Bytes) (counter n : Nat) : List (Option (Nat × Bytes)) :=
  (List.range n).map fun i => entry host (turn host (counter + i))

theorem turns_succ {counter n : Nat} : turns host counter (n + 1) =
    entry host (turn host counter) :: turns host (counter + 1) n := by
  simp [turns, List.range_succ_eq_map, Function.comp_def, Nat.add_comm, Nat.add_left_comm]

theorem turns_wrap {c : UInt16} {n : Nat} :
    turns host (c + 1).toNat n = turns host (c.toNat + 1) n := by
  refine List.map_congr_left fun i _ => ?_
  simp [turn, UInt16.toNat_add]

theorem connects_roundRobin (hcomma : comma ∈ host) {outcomes : List Outcome} :
    connects .roundRobin host pool outcomes =
      turns host pool.rrcounter.toNat outcomes.length := by
  induction outcomes generalizing pool with
  | nil => rfl
  | cons outcome outcomes ih =>
    have hcounter : (outcome.remember
        { pool with rrcounter := pool.rrcounter + 1 }).rrcounter = pool.rrcounter + 1 := by
      cases outcome <;> rfl
    rw [connects, dnsConnect_eq hcomma, List.length_cons, turns_succ]
    simp only [if_true, ih, hcounter, turns_wrap]
    simp [next]

theorem connects_failing (hcomma : comma ∈ host) {n : Nat} :
    connects .disable host pool (List.replicate n .failed) =
      turns host (next .disable pool).toNat n := by
  induction n generalizing pool with
  | zero => rfl
  | succ n ih =>
    rw [List.replicate_succ, connects, dnsConnect_eq hcomma, turns_succ]
    simp only [ih, ← turns_wrap]
    simp [Outcome.remember, next]

/-! ### Turns -/

theorem range_perm_mod {n : Nat} (hn : 0 < n) (c : Nat) :
    ((List.range n).map fun i => (c + i) % n).Perm (List.range n) := by
  have hnodup : ((List.range n).map fun i => (c + i) % n).Nodup := by
    refine List.Nodup.map_on (fun i hi j hj heq => ?_) List.nodup_range
    have hmod : i % n = j % n := Nat.ModEq.add_left_cancel' c heq
    rwa [Nat.mod_eq_of_lt (List.mem_range.mp hi), Nat.mod_eq_of_lt (List.mem_range.mp hj)] at hmod
  refine (List.subperm_of_subset hnodup fun x hx => ?_).perm_of_length_le (by simp)
  obtain ⟨i, -, rfl⟩ := List.mem_map.mp hx
  exact List.mem_range.mpr (Nat.mod_lt _ hn)

/-- Each host exactly once. -/
def once (host : Bytes) : List (Option (Nat × Bytes)) :=
  (entries host).mapIdx fun i entry => some (i, entry)

theorem once_eq : once host = (List.range (entries host).length).map (entry host) := by
  refine List.ext_getElem (by simp [once]) fun i h _ => ?_
  have hi : i < (entries host).length := by simpa [once] using h
  simp [once, entry, hi]

/-- What is wanted of a list of hosts. -/
structure TakesTurns (host : Bytes) : Prop where
  chosen : ∀ mode pool, ∃ i entry, (dnsConnect mode host pool).1 = some (i, entry) ∧
    (entries host)[i]? = some entry
  roundRobin : ∀ pool (outcomes : List Outcome), outcomes.length = (entries host).length →
    (connects .roundRobin host pool outcomes).Perm (once host)
  /-- The host stays the same after a connection that did not fail, unless one that failed
  was followed by one for a cancel request. -/
  stays : ∀ pool (outcome : Outcome), outcome ≠ .failed →
    (outcome = .canceling → pool.lastConnectFailed = false) →
    (dnsConnect .disable host (outcome.remember (dnsConnect .disable host pool).2)).1 =
      (dnsConnect .disable host pool).1
  failing : ∀ pool,
    (connects .disable host pool (List.replicate (entries host).length .failed)).Perm (once host)

theorem length_le : (entries host).length ≤ count host :=
  length_fields ▸ List.length_filter_le _ (fields host)

theorem entry_of_lt {n : Nat} (h : n < (entries host).length) :
    ∃ e, entry host n = some (n, e) ∧ (entries host)[n]? = some e :=
  ⟨_, by simp [entry, h], List.getElem?_eq_getElem h⟩

theorem fst_of_entry {n i : Nat} {e : Bytes} (h : entry host n = some (i, e)) : n = i := by
  obtain ⟨e', -, heq⟩ := Option.map_eq_some_iff.mp h
  exact congrArg Prod.fst heq

theorem turn_of_perm {c j : Nat} (h : (turns host c (entries host).length).Perm (once host))
    (hj : j < (entries host).length) :
    ∃ i < (entries host).length, turn host (c + i) = j := by
  obtain ⟨e, he, -⟩ := entry_of_lt hj
  have hmem : entry host j ∈ once host := by
    rw [once_eq]
    exact List.mem_map_of_mem (List.mem_range.mpr hj)
  obtain ⟨i, hi, heq⟩ := List.mem_map.mp (h.mem_iff.mpr hmem)
  exact ⟨i, List.mem_range.mp hi, fst_of_entry (heq.trans he)⟩

/-- The counter wraps in step with the hosts. -/
theorem turns_perm (hpos : 0 < (entries host).length)
    (hturn : ∀ c, turn host c = c % (entries host).length) {c : Nat} :
    (turns host c (entries host).length).Perm (once host) := by
  rw [once_eq, turns]
  simp only [hturn]
  simpa only [List.map_map, Function.comp_def] using (range_perm_mod hpos c).map (entry host)

theorem turn_eq (hdvd : (entries host).length ∣ 2 ^ 16)
    (hall : [] ∉ fields host ∨ (entries host).length = 2 ^ 16) (c : Nat) :
    turn host c = c % (entries host).length := by
  rcases hall with hall | hlength
  · have hcount : (entries host).length = count host := by
      rw [← length_fields, entries, List.filter_eq_self.mpr]
      exact fun e he => decide_eq_true fun heq => hall (heq ▸ he)
    rw [turn, ← hcount, Nat.mod_mod_of_dvd c hdvd]
  · have hle : 2 ^ 16 ≤ count host := hlength ▸ length_le
    rw [turn, hlength, Nat.mod_eq_of_lt]
    exact Nat.lt_of_lt_of_le (Nat.mod_lt c (by decide)) hle

/-- Every number has its turn, also when the counter is about to wrap. -/
theorem counts_of_turns (hpos : 0 < (entries host).length)
    (hturns : ∀ (c : UInt16) (j : Nat), j < (entries host).length →
      ∃ i < (entries host).length, turn host (c.toNat + i) = j)
    (hchosen : ∀ c : UInt16, turn host c.toNat < (entries host).length) :
    (entries host).length ∣ 2 ^ 16 ∧
      ((entries host).length = count host ∨ (entries host).length = 2 ^ 16) := by
  have hle := @length_le host
  have hlength : (entries host).length ≤ 2 ^ 16 := by
    by_contra hlt
    obtain ⟨i, -, hi⟩ := hturns 0 (2 ^ 16) (Nat.not_le.mp hlt)
    exact absurd hi (Nat.ne_of_lt (Nat.lt_of_le_of_lt (Nat.mod_le _ _) (Nat.mod_lt _ (by decide))))
  have hwrap : 65535 % count host = (entries host).length - 1 := by
    obtain ⟨i, hi, heq⟩ := hturns 65535 ((entries host).length - 1) (by omega)
    cases i with
    | zero => exact heq
    | succ i =>
      have hmod : (65535 + (i + 1)) % 2 ^ 16 = i := by omega
      rw [turn, show UInt16.toNat 65535 = 65535 from rfl, hmod, Nat.mod_eq_of_lt (by omega)] at heq
      omega
  by_cases hcount : count host ≤ 2 ^ 16
  · have hlast := hchosen (UInt16.ofNat (count host - 1))
    rw [turn, UInt16.toNat_ofNat', Nat.mod_mod, Nat.mod_eq_of_lt (by omega),
      Nat.mod_eq_of_lt (by omega)] at hlast
    have heq : (entries host).length = count host := by omega
    have hdiv := Nat.div_add_mod 65535 (count host)
    exact ⟨heq ▸ ⟨65535 / count host + 1, by rw [Nat.mul_add]; omega⟩, .inl heq⟩
  · rw [Nat.mod_eq_of_lt (by omega)] at hwrap
    have heq : (entries host).length = 2 ^ 16 := by omega
    exact ⟨heq ▸ Nat.dvd_refl _, .inr heq⟩

/-- **When hosts take turns.**  A list does what is wanted if and only if the number of its
hosts divides 65536 and no entry is empty, or there are 65536 hosts. -/
theorem takesTurns_iff (hcomma : comma ∈ host) (hne : entries host ≠ []) :
    TakesTurns host ↔ (entries host).length ∣ 2 ^ 16 ∧
      ([] ∉ fields host ∨ (entries host).length = 2 ^ 16) := by
  have hpos := List.length_pos_iff.mpr hne
  constructor
  · intro h
    have hcounts := counts_of_turns hpos (fun c j hj => ?_) (fun c => ?_)
    · refine ⟨hcounts.1, hcounts.2.imp_left fun heq hmem => ?_⟩
      have hall := List.length_filter_eq_length_iff.mp (heq.trans length_fields.symm) _ hmem
      simp at hall
    · have hperm := h.roundRobin ⟨c, false⟩ (List.replicate (entries host).length .failed) (by simp)
      rw [connects_roundRobin hcomma, List.length_replicate] at hperm
      exact turn_of_perm hperm hj
    · obtain ⟨i, e, heq, hget⟩ := h.chosen .roundRobin ⟨c, false⟩
      rw [dnsConnect_eq hcomma] at heq
      exact fst_of_entry heq ▸ (List.getElem?_eq_some_iff.mp hget).1
  · rintro ⟨hdvd, hall⟩
    have hturn := turn_eq hdvd hall
    refine ⟨fun mode pool => ?_, fun pool outcomes hlength => ?_,
      fun pool outcome hok hcancel => ?_,
      fun pool => ?_⟩
    · rw [dnsConnect_eq hcomma, hturn]
      obtain ⟨e, he, hget⟩ := entry_of_lt (Nat.mod_lt (next mode pool).toNat hpos)
      exact ⟨_, e, he, hget⟩
    · rw [connects_roundRobin hcomma, hlength]
      exact turns_perm hpos hturn
    · rw [dnsConnect_eq hcomma, dnsConnect_eq hcomma]
      cases outcome with
      | failed => exact absurd rfl hok
      | loggedIn => simp [Outcome.remember, next]
      | canceling => simp [Outcome.remember, next, hcancel rfl]
    · rw [connects_failing hcomma]
      exact turns_perm hpos hturn

theorem takesTurns_two : comma ∈ [97, comma, 98] ∧ TakesTurns [97, comma, 98] :=
  ⟨by decide, (takesTurns_iff (by decide) (by decide)).mpr (by decide)⟩

/-- An empty entry: there is no host for the counter 2.  Three hosts: when the counter wraps,
the first one has two turns, one after the other.  And a connection for a cancel request, which
does not fail, is followed by one to the next host. -/
theorem turns_missed :
    (dnsConnect .roundRobin [97, comma, comma, 98] ⟨2, false⟩).1 = none ∧
    connects .roundRobin [97, comma, 98, comma, 99] ⟨65535, false⟩
        [.loggedIn, .loggedIn, .loggedIn] =
      [some (0, [97]), some (0, [97]), some (1, [98])] ∧
    connects .disable [97, comma, 98] ⟨0, false⟩ [.failed, .canceling, .loggedIn] =
      [some (0, [97]), some (1, [98]), some (0, [97])] := by
  decide

end PgBouncer.Hosts
