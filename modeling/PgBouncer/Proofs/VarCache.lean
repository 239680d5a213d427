/-
When the parameters of a server are those of its client.

What pgbouncer knows of a server is right: the value it has recorded means what the backend
has.  So a parameter that needs no SET is as the client wants it, and one that is sent a SET
is so after the answer.  What can go wrong is a SET that is needed and not sent, because the
value does not fit into a buffer, or one that the backend reads differently from the same
value in a startup packet.

`Settable` excludes these, together with two ways for a client to lose what it asked for
before it ever gets a server, and a packet that goes to the server of the client's own
auth_query.
-/
import PgBouncer.VarCache
import Mathlib.Data.List.Nodup

namespace PgBouncer.Vars

variable {names : List Bytes} {b : Backend}

/-! ### Names and statements -/

variable {i : Nat} {effective : Nat → Bytes} {sv : Server} {cl : Client} {cl' : Option Client}
  {sv' : Option Server} {l : Link} {v : Bytes} {values : List Bytes} {w' : World}

theorem lookup_lt {key : Bytes} (h : lookup names key = some i) : i < names.length := by
  rw [lookup, List.findIdx?_eq_some_iff_getElem] at h
  exact h.1

theorem index_of_applyVar {cval sval : Option Bytes} {x : Stmt}
    (h : applyVar names i cval sval = some x) : x.index = i := by
  unfold applyVar at h
  split at h
  · cases h
  split at h
  · cases h
    rfl
  · obtain ⟨value, -, rfl⟩ := Option.map_eq_some_iff.1 h
    rfl

theorem mem_varcacheApply {server client : VarCache} {x : Stmt} :
    x ∈ varcacheApply names server client ↔
      ∃ i < names.length, applyVar names i (client i) (server i) = some x := by
  simp [varcacheApply]

theorem nodup_varcacheApply (names : List Bytes) (server client : VarCache) :
    ((varcacheApply names server client).map Stmt.index).Nodup := by
  rw [varcacheApply, List.map_filterMap]
  refine List.Nodup.filterMap (fun i j x hi hj => ?_) List.nodup_range
  obtain ⟨s, hs, rfl⟩ := Option.map_eq_some_iff.1 (Option.mem_def.1 hi)
  obtain ⟨t, ht, heq⟩ := Option.map_eq_some_iff.1 (Option.mem_def.1 hj)
  rw [← index_of_applyVar hs, ← index_of_applyVar ht, heq]

/-- What a query leaves behind, parameter by parameter. -/
theorem exec_spec {default effective' : Nat → Bytes} {stmts : List Stmt}
    (h : b.exec default effective stmts = some effective') (hnodup : (stmts.map Stmt.index).Nodup)
    (i : Nat) :
    ((∀ x ∈ stmts, x.index ≠ i) → effective' i = effective i) ∧
      (∀ value, .set i value ∈ stmts → b.set i value = some (effective' i)) ∧
      (.reset i ∈ stmts → effective' i = default i) := by
  induction stmts generalizing effective with
  | nil =>
    cases h
    simp
  | cons x stmts ih =>
    obtain ⟨hfirst, hrest⟩ := List.nodup_cons.1 hnodup
    -- behind the statement there is no other about the same parameter
    have hlast : ∀ y ∈ stmts, y.index ≠ x.index :=
      fun y hy heq => hfirst (List.mem_map.2 ⟨y, hy, heq⟩)
    cases x with
    | set j value =>
      obtain ⟨v, hv, h⟩ := Option.bind_eq_some_iff.1 h
      obtain ⟨hsame, hset, hreset⟩ := ih h hrest
      refine ⟨fun hno => ?_, fun value' hmem => ?_, fun hmem => ?_⟩
      · rw [hsame fun y hy => hno y (List.mem_cons_of_mem _ hy),
          Function.update_of_ne fun hij : i = j => hno _ List.mem_cons_self hij.symm]
      · rcases List.mem_cons.1 hmem with heq | hmem
        · cases heq
          rw [hsame hlast, Function.update_self]
          exact hv
        · exact hset value' hmem
      · rcases List.mem_cons.1 hmem with heq | hmem
        · cases heq
        · exact hreset hmem
    | reset j =>
      obtain ⟨hsame, hset, hreset⟩ := ih h hrest
      refine ⟨fun hno => ?_, fun value' hmem => ?_, fun hmem => ?_⟩
      · rw [hsame fun y hy => hno y (List.mem_cons_of_mem _ hy),
          Function.update_of_ne fun hij : i = j => hno _ List.mem_cons_self hij.symm]
      · rcases List.mem_cons.1 hmem with heq | hmem
        · cases heq
        · exact hset value' hmem
      · rcases List.mem_cons.1 hmem with heq | hmem
        · cases heq
          rw [hsame hlast, Function.update_self]
        · exact hreset hmem

/-! ### Servers and clients -/

/-- What is recorded of a server is what the backend has. -/
structure ServerOk (names : List Bytes) (b : Backend) (sv : Server) : Prop where
  known : ∀ i v, sv.vars i = some v → b.startup i v = some (sv.effective i)
  default : ∀ i < names.length, b.startup i (sv.default i) = some (sv.default i)
  nodup : (sv.pending.map Stmt.index).Nodup
  tracked : ∀ x ∈ sv.pending, x.index < names.length
  linked : sv.pending ≠ [] → ∃ l, sv.link = some l ∧ l.authQuery = false

structure ClientOk (names : List Bytes) (cl : Client) : Prop where
  tracked : ∀ i a, cl.asked i = some a → i < names.length
  noOptions : ∀ i, cl.startupOptions i = none

/-- What is recorded of a client means what it asked for. -/
structure Settled (b : Backend) (cl : Client) : Prop where
  vars : ∀ i v, cl.vars i = some v → ∃ a, cl.asked i = some a ∧ b.startup i v = b.startup i a
  recorded : ∀ i a, cl.asked i = some a → cl.vars i ≠ none

/-- A server and the client it is linked to.  While a parameter is being set it may be
overwritten by what the server reports. -/
structure Paired (names : List Bytes) (b : Backend) (sv : Server) (cl : Client) : Prop where
  vars : ∀ i v, cl.vars i = some v →
    (∃ a, cl.asked i = some a ∧ b.startup i v = b.startup i a) ∨
      (∃ x ∈ sv.pending, x.index = i) ∧ b.reports i = true ∧
        b.startup i v = some (sv.effective i)
  recorded : ∀ i a, cl.asked i = some a → cl.vars i ≠ none
  value : ∀ i a, cl.asked i = some a →
    (∃ value, .set i value ∈ sv.pending ∧ b.set i value = b.startup i a) ∨
      (∀ x ∈ sv.pending, x.index ≠ i) ∧ b.startup i a = some (sv.effective i)
  told : cl.welcomed = false → ∀ i < names.length, b.reports i = true → cl.asked i ≠ none

theorem Paired.settled (h : Paired names b sv cl) (hpending : sv.pending = []) : Settled b cl := by
  refine ⟨fun i v hv => ?_, h.recorded⟩
  rcases h.vars i v hv with ha | ⟨⟨x, hx, -⟩, -⟩
  · exact ha
  · rw [hpending] at hx
    cases hx

/-- One parameter at the end of `varcache_apply`: with `e` and `e'` the value of the backend
before and after it, and what has changed reported to both. -/
theorem setCanonical_spec {st : Bytes → Option Bytes} {orig sval cval : Option Bytes}
    {e e' : Bytes} {told : Bool} (horig : orig ≠ none → told = true)
    (hserver : ∀ v, sval = some v → st v = some e)
    (hclient : ∀ v, cval = some v → st v = some e' ∨ told = true ∧ st v = some e)
    (hchanged : e' ≠ e → st e' = some e') {r : Option Bytes × Option Bytes}
    (hr : r = setCanonical orig (if told = true ∧ e' ≠ e then some e' else sval)
      (if told = true ∧ e' ≠ e then some e' else cval)) :
    (∀ v, r.1 = some v → st v = some e') ∧ (∀ v, r.2 = some v → st v = some e') ∧
      (cval ≠ none → r.2 ≠ none) := by
  by_cases hch : told = true ∧ e' ≠ e
  · rw [if_pos hch, if_pos hch] at hr
    have hboth : r = (some e', some e') := by
      rw [hr]
      unfold setCanonical
      split <;> rfl
    have hval := hchanged hch.2
    rw [hboth]
    refine ⟨fun v hv => ?_, fun v hv => ?_, fun _ => Option.some_ne_none _⟩ <;> cases hv <;>
      exact hval
  rw [if_neg hch, if_neg hch] at hr
  have hclient : ∀ v, cval = some v → st v = some e' := by
    intro v hv
    rcases hclient v hv with hst | ⟨htold, hst⟩
    · exact hst
    · have hsame : e' = e := by
        by_contra hne
        exact hch ⟨htold, hne⟩
      rw [hst, hsame]
  unfold setCanonical at hr
  split at hr
  · rw [hr]
    exact ⟨hclient, hclient, id⟩
  · rename_i hsome
    have hsame : e' = e := by
      by_contra hne
      exact hch ⟨horig (by simpa using hsome), hne⟩
    have hserver : ∀ v, sval = some v → st v = some e' := by
      rw [hsame]
      exact hserver
    cases cval with
    | none =>
      rw [hr]
      exact ⟨fun v hv => (nomatch hv), fun v hv => (nomatch hv), fun hne => absurd rfl hne⟩
    | some cv =>
      cases sval with
      | none =>
        rw [hr]
        exact ⟨hclient, hclient, fun _ => Option.some_ne_none _⟩
      | some sv =>
        rw [hr]
        exact ⟨hserver, hserver, fun _ => Option.some_ne_none _⟩

/-! ### The world -/

/-- A server with its client: as `Paired` says, or the server runs an auth_query. -/
def Fits (names : List Bytes) (b : Backend) (sv : Server) (l : Link) (cl : Client) : Prop :=
  if l.authQuery then Settled b cl else Paired names b sv cl

structure WorldOk (names : List Bytes) (b : Backend) (w : World) : Prop where
  servers : ∀ {s sv}, w.servers s = some sv → ServerOk names b sv
  clients : ∀ {c cl}, w.clients c = some cl → ClientOk names cl
  orig : ∀ {i v}, w.origVars i = some v → i < names.length ∧ b.reports i = true
  link : ∀ {s sv l}, w.servers s = some sv → sv.link = some l →
    ∃ cl, w.clients l.client = some cl ∧ cl.link = some s
  back : ∀ {c cl s}, w.clients c = some cl → cl.link = some s →
    ∃ sv l, w.servers s = some sv ∧ sv.link = some l ∧ l.client = c
  free : ∀ {c cl}, w.clients c = some cl → cl.link = none → Settled b cl
  pair : ∀ {s sv l cl}, w.servers s = some sv → sv.link = some l →
    w.clients l.client = some cl → Fits names b sv l cl

theorem WorldOk.initial : WorldOk names b {} :=
  ⟨nofun, nofun, nofun, nofun,
    nofun, nofun, nofun⟩

variable {w : World} {s c : Nat}

theorem servers_putServer_self : (w.putServer s sv').servers s = sv' := Function.update_self ..

theorem clients_putClient_self : (w.putClient c cl').clients c = cl' := Function.update_self ..

/-- Some servers and some clients are changed, and none of them is linked to another one. -/
theorem WorldOk.change (h : WorldOk names b w) {A B : Nat → Prop}
    (hA : ∀ s, ¬A s → w'.servers s = w.servers s) (hB : ∀ c, ¬B c → w'.clients c = w.clients c)
    (horig : w'.origVars = w.origVars)
    (hold : ∀ {s sv l}, w.servers s = some sv → sv.link = some l → (A s ↔ B l.client))
    (hserver : ∀ s sv, A s → w'.servers s = some sv → ServerOk names b sv ∧
      ∀ l, sv.link = some l →
        ∃ cl, w'.clients l.client = some cl ∧ cl.link = some s ∧ Fits names b sv l cl)
    (hclient : ∀ c cl, B c → w'.clients c = some cl → ClientOk names cl ∧
      (cl.link = none → Settled b cl) ∧ ∀ s, cl.link = some s →
        ∃ sv l, w'.servers s = some sv ∧ sv.link = some l ∧ l.client = c) :
    WorldOk names b w' := by
  refine ⟨fun {s sv} hsv => ?_, fun {c cl} hcl => ?_, horig ▸ h.orig, fun {s sv l} hsv hl => ?_,
    fun {c cl s} hcl hs => ?_, fun {c cl} hcl hl => ?_, fun {s sv l cl} hsv hl hcl => ?_⟩
  · by_cases hs : A s
    · exact (hserver s sv hs hsv).1
    · exact h.servers (hA s hs ▸ hsv)
  · by_cases hc : B c
    · exact (hclient c cl hc hcl).1
    · exact h.clients (hB c hc ▸ hcl)
  · by_cases hs : A s
    · obtain ⟨cl, hcl, hback, -⟩ := (hserver s sv hs hsv).2 l hl
      exact ⟨cl, hcl, hback⟩
    · rw [hA s hs] at hsv
      obtain ⟨cl, hcl, hback⟩ := h.link hsv hl
      exact ⟨cl, (hB _ fun hc => hs ((hold hsv hl).2 hc)).trans hcl, hback⟩
  · by_cases hc : B c
    · exact (hclient c cl hc hcl).2.2 s hs
    · rw [hB c hc] at hcl
      obtain ⟨sv, l, hsv, hl, rfl⟩ := h.back hcl hs
      exact ⟨sv, l, (hA _ fun hs => hc ((hold hsv hl).1 hs)).trans hsv, hl, rfl⟩
  · by_cases hc : B c
    · exact (hclient c cl hc hcl).2.1 hl
    · exact h.free (hB c hc ▸ hcl) hl
  · by_cases hs : A s
    · obtain ⟨cl', hcl', -, hfits⟩ := (hserver s sv hs hsv).2 l hl
      cases hcl.symm.trans hcl'
      exact hfits
    · rw [hA s hs] at hsv
      rw [hB _ fun hc => hs ((hold hsv hl).2 hc)] at hcl
      exact h.pair hsv hl hcl

/-- A client that no server is linked to is changed. -/
theorem WorldOk.putClient (h : WorldOk names b w)
    (hold : ∀ cl, w.clients c = some cl → cl.link = none)
    (hnew : ∀ cl, cl' = some cl → ClientOk names cl ∧ cl.link = none ∧ Settled b cl) :
    WorldOk names b (w.putClient c cl') := by
  refine h.change (A := fun _ => False) (B := (· = c)) (fun _ _ => rfl)
    (fun _ hc => Function.update_of_ne hc ..) rfl (fun hsv hl => ⟨False.elim, ?_⟩)
    (fun _ _ hfalse => hfalse.elim) ?_
  · rintro rfl
    obtain ⟨cl, hcl, hback⟩ := h.link hsv hl
    cases (hold cl hcl).symm.trans hback
  · rintro _ cl rfl hcl
    obtain ⟨hok, hnone, hsettled⟩ := hnew cl (clients_putClient_self.symm.trans hcl)
    exact ⟨hok, fun _ => hsettled, fun s hs => nomatch hnone.symm.trans hs⟩

/-- A server that no client is linked to is changed. -/
theorem WorldOk.putServer (h : WorldOk names b w)
    (hold : ∀ sv, w.servers s = some sv → sv.link = none)
    (hnew : ∀ sv, sv' = some sv → ServerOk names b sv ∧ sv.link = none) :
    WorldOk names b (w.putServer s sv') := by
  refine h.change (A := (· = s)) (B := fun _ => False)
    (fun _ hs => Function.update_of_ne hs ..) (fun _ _ => rfl) rfl
    (fun {_ sv _} hsv hl => ⟨?_, False.elim⟩) ?_ fun _ _ hfalse => hfalse.elim
  · rintro rfl
    cases (hold sv hsv).symm.trans hl
  · rintro _ sv rfl hsv
    obtain ⟨hok, hnone⟩ := hnew sv (servers_putServer_self.symm.trans hsv)
    exact ⟨hok, fun l hl => nomatch hnone.symm.trans hl⟩

/-- A server and a client that are linked to nobody else. -/
theorem WorldOk.apart (h : WorldOk names b w)
    (hserver : ∀ sv l, w.servers s = some sv → sv.link = some l → l.client = c)
    (hclient : ∀ cl s', w.clients c = some cl → cl.link = some s' → s' = s) {s₁ : Nat}
    (hsv : w.servers s₁ = some sv) (hl : sv.link = some l) : s₁ = s ↔ l.client = c := by
  constructor
  · rintro rfl
    exact hserver sv l hsv hl
  · rintro rfl
    obtain ⟨cl, hcl, hback⟩ := h.link hsv hl
    exact hclient cl s₁ hcl hback

/-- A server and the client it is linked to are linked to nobody else. -/
theorem WorldOk.only (h : WorldOk names b w) (hsv : w.servers s = some sv) (hl : sv.link = some l) :
    (∀ sv' l', w.servers s = some sv' → sv'.link = some l' → l'.client = l.client) ∧
      ∀ cl s', w.clients l.client = some cl → cl.link = some s' → s' = s := by
  refine ⟨fun sv' l' hsv' hl' => ?_, fun cl s' hcl hs' => ?_⟩
  · cases hsv.symm.trans hsv'
    cases hl.symm.trans hl'
    rfl
  · obtain ⟨cl', hcl', hback⟩ := h.link hsv hl
    cases hcl.symm.trans hcl'
    exact Option.some.inj (hs'.symm.trans hback)

/-- They are linked afterwards. -/
theorem WorldOk.putBoth (h : WorldOk names b w) {sv' : Server} {cl' : Client}
    (hserver : ∀ sv l, w.servers s = some sv → sv.link = some l → l.client = c)
    (hclient : ∀ cl s', w.clients c = some cl → cl.link = some s' → s' = s)
    (hsv' : ServerOk names b sv') (hcl' : ClientOk names cl') (hlink : sv'.link = some l)
    (hc : l.client = c) (hback : cl'.link = some s) (hfits : Fits names b sv' l cl') :
    WorldOk names b ((w.putServer s (some sv')).putClient c (some cl')) := by
  refine h.change (A := (· = s)) (B := (· = c)) (fun _ hs => Function.update_of_ne hs ..)
    (fun _ hc => Function.update_of_ne hc ..) rfl (h.apart hserver hclient) ?_ ?_
  · rintro _ sv rfl hsv
    cases servers_putServer_self.symm.trans hsv
    refine ⟨hsv', fun l' hl => ?_⟩
    cases hlink.symm.trans hl
    exact ⟨cl', hc ▸ Function.update_self .., hback, hfits⟩
  · rintro _ cl rfl hcl
    cases clients_putClient_self.symm.trans hcl
    refine ⟨hcl', fun hnone => (nomatch hback.symm.trans hnone), fun s' hs => ?_⟩
    cases hback.symm.trans hs
    exact ⟨sv', l, Function.update_self .., hlink, hc⟩

/-- They were linked before, and are not any more. -/
theorem WorldOk.unlink (h : WorldOk names b w) (hsv : w.servers s = some sv) (hl : sv.link = some l)
    (hsv' : ∀ sv, sv' = some sv → ServerOk names b sv ∧ sv.link = none)
    (hcl' : ∀ cl, cl' = some cl → ClientOk names cl ∧ cl.link = none ∧ Settled b cl) :
    WorldOk names b ((w.putServer s sv').putClient l.client cl') := by
  refine h.change (A := (· = s)) (B := (· = l.client)) (fun _ hs => Function.update_of_ne hs ..)
    (fun _ hc => Function.update_of_ne hc ..) rfl
      (h.apart (h.only hsv hl).1 (h.only hsv hl).2) ?_ ?_
  · rintro _ sv rfl hsv
    obtain ⟨hok, hnone⟩ := hsv' sv (servers_putServer_self.symm.trans hsv)
    exact ⟨hok, fun l hl => nomatch hnone.symm.trans hl⟩
  · rintro _ cl rfl hcl
    obtain ⟨hok, hnone, hsettled⟩ := hcl' cl (clients_putClient_self.symm.trans hcl)
    exact ⟨hok, fun _ => hsettled, fun s hs => nomatch hnone.symm.trans hs⟩

/-! ### The events, one by one -/

/-- What must not happen: that a replication client gives tracked parameters in its options,
that a server reports something while it runs an auth_query, that a client has a packet for a
server while it is linked to that of its auth_query, or that it gets a server for which the SET
of a value cannot be sent, or would be read as another value. -/
def Settable (names : List Bytes) (b : Backend) (w : World) : Event → Prop
  | .startup _ _ replication options =>
    replication = true → ∀ o ∈ options, lookup names o.1 = none
  | .parameterStatus s key _ => ∀ sv l, w.servers s = some sv → sv.link = some l →
      l.authQuery = true → lookup names key = none
  | .findServer s c => ∀ sv cl, w.servers s = some sv → w.clients c = some cl →
      (∀ l, sv.link = some l → l.authQuery = false) ∧
      ∀ i v, cl.vars i = some v → sv.vars i ≠ some v →
        ∃ value, setValue (names.getD i []) v = some value ∧
          (variableIsGucListQuote (names.getD i []) = true ∨ b.listQuote i = true →
            b.set i value = b.startup i v)
  | _ => True

theorem lt_of_setAll {params : List (Bytes × Bytes)} {cache vars : VarCache}
    (h : setAll names cache params = some vars)
    (hcache : ∀ i v, cache i = some v → i < names.length) :
    ∀ i v, vars i = some v → i < names.length := by
  induction params generalizing cache with
  | nil =>
    cases h
    exact hcache
  | cons p params ih =>
    obtain ⟨key, value⟩ := p
    simp only [setAll, varcacheSet] at h
    cases hlookup : lookup names key with
    | none => simp [hlookup] at h
    | some j =>
      simp only [hlookup, if_true] at h
      refine ih h fun i v hv => ?_
      by_cases hij : i = j
      · rw [hij]
        exact lookup_lt hlookup
      · rw [Function.update_of_ne hij] at hv
        exact hcache i v hv

theorem settled_same (h : cl.asked = cl.vars) : Settled b cl := by
  refine ⟨fun i v hv => ⟨v, by rw [h]; exact hv, rfl⟩, fun i a ha => ?_⟩
  rw [← h, ha]
  exact Option.some_ne_none _

/-- `varcache_fill_unset`. -/
theorem Settled.fill (h : Settled b cl) (orig : VarCache) :
    Settled b { cl with
      vars := varcacheFillUnset orig cl.vars, welcomed := true
      asked := varcacheFillUnset orig cl.asked } := by
  refine ⟨fun i v hv => ?_, fun i a ha => ?_⟩
  · cases hvars : cl.vars i with
    | some v' =>
      obtain ⟨a, ha, hsame⟩ := h.vars i v' hvars
      simp only [varcacheFillUnset, hvars, Option.some_or, Option.some.injEq] at hv
      exact ⟨a, by simp [varcacheFillUnset, ha], hv ▸ hsame⟩
    | none =>
      have hnone : cl.asked i = none := by
        by_contra hne
        obtain ⟨a, ha⟩ := Option.ne_none_iff_exists'.1 hne
        exact h.recorded i a ha hvars
      simp only [varcacheFillUnset, hvars, Option.none_or] at hv
      exact ⟨v, by simp [varcacheFillUnset, hnone, hv], rfl⟩
  · simp only [varcacheFillUnset] at ha ⊢
    cases hvars : cl.vars i with
    | some v => simp
    | none =>
      have hnone : cl.asked i = none := by
        by_contra hne
        obtain ⟨a, ha⟩ := Option.ne_none_iff_exists'.1 hne
        exact h.recorded i a ha hvars
      rw [hnone] at ha
      simp only [Option.none_or] at ha ⊢
      rw [ha]
      exact Option.some_ne_none _

theorem lt_of_reported (h : World.reported names b effective i = some v) :
    i < names.length ∧ b.reports i = true ∧ v = effective i := by
  unfold World.reported at h
  split at h
  · rename_i hi
    cases h
    exact ⟨hi.1, hi.2, rfl⟩
  · cases h

theorem WorldOk.addWelcome (h : WorldOk names b w) (effective : Nat → Bytes) :
    WorldOk names b (w.addWelcome names b effective) := by
  unfold World.addWelcome
  split
  · exact h
  · refine { h with orig := fun {i v} hv => ?_ }
    cases hrep : World.reported names b effective i with
    | some v' =>
      obtain ⟨hi, hreports, -⟩ := lt_of_reported hrep
      exact ⟨hi, hreports⟩
    | none =>
      simp only [hrep, Option.none_or] at hv
      exact h.orig hv

theorem addWelcome_servers (w : World) (effective : Nat → Bytes) :
    (w.addWelcome names b effective).servers = w.servers ∧
      (w.addWelcome names b effective).clients = w.clients := by
  unfold World.addWelcome
  split <;> exact ⟨rfl, rfl⟩

/-- A server as it is after its login. -/
theorem serverOk_new {link : Option Link}
    (h : ∀ i < names.length, b.startup i (effective i) = some (effective i)) :
    ServerOk names b
      { vars := World.reported names b effective, effective, default := effective, link } := by
  refine ⟨fun i v hv => ?_, h, List.nodup_nil, fun x hx => (nomatch hx), fun hne => absurd rfl hne⟩
  obtain ⟨hi, -, rfl⟩ := lt_of_reported hv
  exact h i hi

/-- **A client gets a server.**  Where the two differ a SET is on its way. -/
theorem paired_findServer (hserver : ServerOk names b sv) (hclient : ClientOk names cl)
    (hsettled : Settled b cl) (hwelcomed : cl.welcomed = true)
    (hsettable : ∀ i v, cl.vars i = some v → sv.vars i ≠ some v →
      ∃ value, setValue (names.getD i []) v = some value ∧
        (variableIsGucListQuote (names.getD i []) = true ∨ b.listQuote i = true →
          b.set i value = b.startup i v)) {link : Option Link} {back : Option Nat} :
    Paired names b { sv with link, pending := varcacheApply names sv.vars cl.vars }
      { cl with link := back } := by
  refine ⟨fun i v hv => .inl (hsettled.vars i v hv), hsettled.recorded, fun i a ha => ?_,
    fun hno => nomatch hwelcomed.symm.trans hno⟩
  obtain ⟨v, hv⟩ := Option.ne_none_iff_exists'.1 (hsettled.recorded i a ha)
  obtain ⟨a', ha', hmeans⟩ := hsettled.vars i v hv
  cases ha.symm.trans ha'
  by_cases hsame : sv.vars i = some v
  · refine .inr ⟨fun x hx hindex => ?_, hmeans.symm.trans (hserver.known i v hsame)⟩
    obtain ⟨j, -, hj⟩ := mem_varcacheApply.1 hx
    have hji : j = i := (index_of_applyVar hj).symm.trans hindex
    rw [hji, hv, hsame, applyVar, if_pos rfl] at hj
    cases hj
  · obtain ⟨value, hvalue, hlist⟩ := hsettable i v hv hsame
    refine .inl ⟨value, mem_varcacheApply.2 ⟨i, hclient.tracked i a ha, ?_⟩, ?_⟩
    · simp only [applyVar]
      rw [if_neg (by rw [hv]; exact fun heq => hsame heq.symm), hv]
      simp only [hvalue, Option.map_some]
    · rw [← hmeans]
      by_cases hquote : variableIsGucListQuote (names.getD i []) = true ∨ b.listQuote i = true
      · exact hlist hquote
      · rw [not_or, Bool.not_eq_true, Bool.not_eq_true] at hquote
        rw [setValue, hquote.1, if_neg Bool.false_ne_true] at hvalue
        exact b.set_literal hquote.2 (SqlLiteral.read_write hvalue)

/-- **The answer comes**, and the two agree in everything. -/
theorem paired_answer {orig : VarCache} (hserver : ServerOk names b sv)
    (hpair : Paired names b sv cl)
    (horig : ∀ {i v}, orig i = some v → i < names.length ∧ b.reports i = true)
    (hexec : b.exec sv.default sv.effective sv.pending = some effective)
    {vars : Nat → Option Bytes × Option Bytes} (hvars : ∀ i, vars i = setCanonical (orig i)
      (if decide (i < names.length ∧ b.reports i = true ∧ effective i ≠ sv.effective i) = true then
        some (effective i) else sv.vars i)
      (if decide (i < names.length ∧ b.reports i = true ∧ effective i ≠ sv.effective i) = true then
        some (effective i) else cl.vars i)) :
    ServerOk names b { sv with effective, pending := [], vars := fun i => (vars i).1 } ∧
      Paired names b { sv with effective, pending := [], vars := fun i => (vars i).1 }
        { cl with
          vars := fun i => (vars i).2
          asked := fun i => (cl.asked i).or (vars i).2 } := by
  have hspec := fun i => exec_spec hexec hserver.nodup i
  -- the value a client has asked for is there
  have hasked : ∀ i a, cl.asked i = some a → b.startup i a = some (effective i) := by
    intro i a ha
    rcases hpair.value i a ha with ⟨value, hmem, hset⟩ | ⟨hno, hvalue⟩
    · rw [← hset]
      exact (hspec i).2.1 value hmem
    · rw [(hspec i).1 hno]
      exact hvalue
  have hcanonical : ∀ i, effective i ≠ sv.effective i →
      b.startup i (effective i) = some (effective i) := by
    intro i hne
    by_cases hany : ∃ x ∈ sv.pending, x.index = i
    · obtain ⟨x, hx, hindex⟩ := hany
      cases x with
      | set j value =>
        cases hindex
        exact b.set_canonical ((hspec j).2.1 value hx)
      | reset j =>
        cases hindex
        show b.startup j (effective j) = some (effective j)
        rw [(hspec j).2.2 hx]
        exact hserver.default j (hserver.tracked _ hx)
    · exact absurd ((hspec i).1 fun x hx hindex => hany ⟨x, hx, hindex⟩) hne
  have hone := fun i => @setCanonical_spec (b.startup i) (orig i) (sv.vars i) (cl.vars i)
    (sv.effective i) (effective i) (decide (i < names.length ∧ b.reports i = true))
    (fun hne => by
      obtain ⟨v, hv⟩ := Option.ne_none_iff_exists'.1 hne
      exact decide_eq_true (horig hv))
    (hserver.known i)
    (fun v hv => by
      rcases hpair.vars i v hv with ⟨a, ha, hsame⟩ | ⟨⟨x, hx, hindex⟩, hreports, hvalue⟩
      · exact .inl (hsame.trans (hasked i a ha))
      · exact .inr ⟨decide_eq_true ⟨hindex ▸ hserver.tracked x hx, hreports⟩, hvalue⟩)
    (hcanonical i) (vars i) (by simp only [hvars, decide_eq_true_eq, and_assoc])
  refine ⟨⟨fun i v hv => (hone i).1 v hv, hserver.default, List.nodup_nil,
    fun x hx => (nomatch hx), fun hne => absurd rfl hne⟩, fun i v hv => .inl ?_, fun i a ha => ?_,
    fun i a ha => .inr ⟨fun x hx => (nomatch hx), ?_⟩, fun hno i hi hreports => ?_⟩
  · cases hasked' : cl.asked i with
    | some a =>
      refine ⟨a, by simp [hasked'], ?_⟩
      rw [(hone i).2.1 v hv, hasked i a hasked']
    | none => exact ⟨v, by simpa [hasked'] using hv, rfl⟩
  · cases hasked' : cl.asked i with
    | some a' => exact (hone i).2.2 (hpair.recorded i a' hasked')
    | none =>
      simp only [hasked', Option.none_or] at ha
      simp only [ha, ne_eq, reduceCtorEq, not_false_eq_true]
  · cases hasked' : cl.asked i with
    | some a' =>
      simp only [hasked', Option.some_or, Option.some.injEq] at ha
      rw [← ha]
      exact hasked i a' hasked'
    | none =>
      simp only [hasked', Option.none_or] at ha
      exact (hone i).2.1 a ha
  · have hne := hpair.told hno i hi hreports
    obtain ⟨a, ha⟩ := Option.ne_none_iff_exists'.1 hne
    simp [ha]

/-- A value is reported. -/
theorem ServerOk.report (h : ServerOk names b sv) (hv : b.startup i v = some v) :
    ServerOk names b { sv with
      effective := Function.update sv.effective i v
      vars := Function.update sv.vars i (some v) } := by
  refine { h with known := fun j v' hv' => ?_ }
  by_cases hji : j = i
  · subst hji
    simp only [Function.update_self, Option.some.injEq] at hv' ⊢
    rw [← hv']
    exact hv
  · simp only [Function.update_of_ne hji] at hv' ⊢
    exact h.known j v' hv'

theorem Paired.report (h : Paired names b sv cl) (hreports : b.reports i = true)
    (hv : b.startup i v = some v) :
    Paired names b { sv with
      effective := Function.update sv.effective i v
      vars := Function.update sv.vars i (some v) }
      (World.tell cl i v (!sv.pending.any (·.index = i))) := by
  by_cases hpending : sv.pending.any (·.index = i) = true
  · -- what the client means is on its way
    have hmem : ∃ x ∈ sv.pending, x.index = i := by simpa using hpending
    simp only [hpending, Bool.not_true]
    refine ⟨fun j v' hv' => ?_, fun j a ha => ?_, fun j a ha => ?_, h.told⟩
    · by_cases hji : j = i
      · subst hji
        simp only [World.tell, Function.update_self, Option.some.injEq] at hv' ⊢
        exact .inr ⟨hmem, hreports, hv' ▸ hv⟩
      · simp only [World.tell, Function.update_of_ne hji] at hv' ⊢
        exact h.vars j v' hv'
    · by_cases hji : j = i
      · subst hji
        simp [World.tell]
      · simp only [World.tell, Function.update_of_ne hji]
        exact h.recorded j a ha
    · by_cases hji : j = i
      · subst hji
        obtain ⟨x, hx, hindex⟩ := hmem
        rcases h.value j a ha with hset | ⟨hno, -⟩
        · exact .inl hset
        · exact absurd hindex (hno x hx)
      · simp only [Function.update_of_ne hji]
        exact h.value j a ha
  · have hno : ∀ x ∈ sv.pending, x.index ≠ i := by simpa using hpending
    simp only [Bool.not_eq_true] at hpending
    simp only [hpending, Bool.not_false]
    refine ⟨fun j v' hv' => ?_, fun j a ha => ?_, fun j a ha => ?_, fun hwel j hj hrep => ?_⟩
    · by_cases hji : j = i
      · subst hji
        simp only [World.tell, Function.update_self, if_true] at hv' ⊢
        exact .inl ⟨v', hv', rfl⟩
      · simp only [World.tell, Function.update_of_ne hji, if_true] at hv' ⊢
        exact h.vars j v' hv'
    · by_cases hji : j = i
      · subst hji
        simp [World.tell]
      · simp only [World.tell, Function.update_of_ne hji, if_true] at ha ⊢
        exact h.recorded j a ha
    · by_cases hji : j = i
      · subst hji
        simp only [World.tell, Function.update_self, if_true, Option.some.injEq] at ha ⊢
        exact .inr ⟨hno, ha ▸ hv⟩
      · simp only [World.tell, Function.update_of_ne hji, if_true] at ha ⊢
        exact h.value j a ha
    · by_cases hji : j = i
      · subst hji
        simp [World.tell]
      · simp only [World.tell, Function.update_of_ne hji, if_true]
        exact h.told hwel j hj hrep

/-- A client that is linked before it is welcomed has been told everything. -/
theorem Paired.fill (h : Paired names b sv cl) {orig : VarCache}
    (horig : ∀ {i v}, orig i = some v → i < names.length ∧ b.reports i = true)
    (hwelcomed : cl.welcomed = false) :
    varcacheFillUnset orig cl.vars = cl.vars ∧ varcacheFillUnset orig cl.asked = cl.asked := by
  have hall : ∀ i, orig i = none ∨ cl.asked i ≠ none := by
    intro i
    cases hi : orig i with
    | none => exact .inl rfl
    | some v => exact .inr (h.told hwelcomed i (horig hi).1 (horig hi).2)
  refine ⟨funext fun i => ?_, funext fun i => ?_⟩
  · rcases hall i with hnone | hne
    · simp [varcacheFillUnset, hnone]
    · obtain ⟨a, ha⟩ := Option.ne_none_iff_exists'.1 hne
      obtain ⟨v, hv⟩ := Option.ne_none_iff_exists'.1 (h.recorded i a ha)
      simp [varcacheFillUnset, hv]
  · rcases hall i with hnone | hne
    · simp [varcacheFillUnset, hnone]
    · obtain ⟨a, ha⟩ := Option.ne_none_iff_exists'.1 hne
      simp [varcacheFillUnset, ha]

theorem startValues_spec {options vars : VarCache}
    (h : World.startValues names b values options vars = some effective) (hi : i < names.length) :
    (∀ v, vars i = some v → b.startup i v = some (effective i)) ∧
      (vars i = none → options i = none → effective i = values.getD i []) := by
  simp only [World.startValues] at h
  split at h
  swap
  · cases h
  rename_i hall
  rw [List.all_eq_true] at hall
  have hsome := hall i (List.mem_range.2 hi)
  cases h
  refine ⟨fun v hv => ?_, fun hv ho => ?_⟩
  · simp only [hv, Option.some_or] at hsome ⊢
    obtain ⟨x, hx⟩ := Option.isSome_iff_exists.1 hsome
    rw [hx]
    rfl
  · simp [hv, ho]

/-- A server logs in for a replication client. -/
theorem paired_loginReplication {cl : Client} {values : List Bytes} {effective : Nat → Bytes}
    (hclient : ClientOk names cl) (hsettled : Settled b cl)
    (hvalues : ∀ i < names.length, b.startup i (values.getD i []) = some (values.getD i []))
    (hstart : World.startValues names b values cl.startupOptions cl.vars = some effective)
    {link : Option Link} {back : Option Nat} :
    (∀ i < names.length, b.startup i (effective i) = some (effective i)) ∧
      Paired names b
        { vars := World.reported names b effective, effective, default := effective, link }
        { cl with
          vars := fun i => (World.reported names b effective i).or (cl.vars i), link := back
          asked := fun i => (cl.asked i).or (World.reported names b effective i) } := by
  have hcanonical : ∀ i < names.length, b.startup i (effective i) = some (effective i) := by
    intro i hi
    obtain ⟨hset, hunset⟩ := startValues_spec hstart hi
    cases hv : cl.vars i with
    | some v => exact b.startup_canonical (hset v hv)
    | none =>
      rw [hunset hv (hclient.noOptions i)]
      exact hvalues i hi
  have hasked : ∀ i a, cl.asked i = some a → b.startup i a = some (effective i) := by
    intro i a ha
    obtain ⟨v, hv⟩ := Option.ne_none_iff_exists'.1 (hsettled.recorded i a ha)
    obtain ⟨a', ha', hmeans⟩ := hsettled.vars i v hv
    cases ha.symm.trans ha'
    rw [← hmeans]
    exact (startValues_spec hstart (hclient.tracked i a ha)).1 v hv
  refine ⟨hcanonical, fun i v hv => .inl ?_, fun i a ha => ?_,
    fun i a ha => .inr ⟨fun x hx => (nomatch hx), ?_⟩, fun _ i hi hreports => ?_⟩
  · cases hrep : World.reported names b effective i with
    | some e =>
      obtain ⟨hi, -, rfl⟩ := lt_of_reported hrep
      simp only [hrep, Option.some_or, Option.some.injEq] at hv
      cases hask : cl.asked i with
      | some a =>
        refine ⟨a, by simp [hask], ?_⟩
        rw [← hv, hcanonical i hi, hasked i a hask]
      | none => exact ⟨effective i, by simp [hask, hrep], by rw [hv]⟩
    | none =>
      simp only [hrep, Option.none_or] at hv
      obtain ⟨a, ha, hmeans⟩ := hsettled.vars i v hv
      exact ⟨a, by simp [ha], hmeans⟩
  · cases hask : cl.asked i with
    | some a' => simp [hsettled.recorded i a' hask]
    | none =>
      simp only [hask, Option.none_or] at ha
      simp [ha]
  · cases hask : cl.asked i with
    | some a' =>
      simp only [hask, Option.some_or, Option.some.injEq] at ha
      rw [← ha]
      exact hasked i a' hask
    | none =>
      simp only [hask, Option.none_or] at ha
      obtain ⟨hi, -, rfl⟩ := lt_of_reported ha
      exact hcanonical i hi
  · have hrep : World.reported names b effective i = some (effective i) :=
      if_pos ⟨hi, hreports⟩
    simp [hrep]

theorem WorldOk.step_welcome (h : WorldOk names b w)
    (hstep : w.step names b (.welcome c) = some w') : WorldOk names b w' := by
  simp only [World.step] at hstep
  split at hstep
  · cases hstep
  rename_i cl hcl
  split at hstep
  swap
  · cases hstep
  rename_i hready
  cases hstep
  have hok := h.clients hcl
  have htracked : ∀ i a, varcacheFillUnset w.origVars cl.asked i = some a →
      i < names.length := by
    intro i a ha
    cases hask : cl.asked i with
    | some a' => exact hok.tracked i a' hask
    | none =>
      simp only [varcacheFillUnset, hask, Option.none_or] at ha
      exact (h.orig ha).1
  have hwelcomed : cl.welcomed = false := by simpa using hready.2
  by_cases hl : cl.link = none
  · refine h.putClient (fun cl' hcl' => ?_) fun cl' heq => ?_
    · cases hcl.symm.trans hcl'
      exact hl
    · cases heq
      exact ⟨⟨htracked, hok.noOptions⟩, hl, (h.free hcl hl).fill _⟩
  · obtain ⟨s, hs⟩ := Option.ne_none_iff_exists'.1 hl
    obtain ⟨sv, l, hsv, hlink, rfl⟩ := h.back hcl hs
    have hfits : Fits names b sv l { cl with
        vars := varcacheFillUnset w.origVars cl.vars, welcomed := true
        asked := varcacheFillUnset w.origVars cl.asked } := by
      have hfits := h.pair hsv hlink hcl
      unfold Fits at hfits ⊢
      split
      · rename_i hauth
        rw [if_pos hauth] at hfits
        exact hfits.fill _
      · rename_i hauth
        rw [if_neg hauth] at hfits
        obtain ⟨hvars, hasked⟩ := hfits.fill h.orig hwelcomed
        rw [hvars, hasked]
        exact { hfits with told := fun hno => nomatch hno }
    have hboth : WorldOk names b ((w.putServer s (some sv)).putClient l.client (some { cl with
        vars := varcacheFillUnset w.origVars cl.vars, welcomed := true
        asked := varcacheFillUnset w.origVars cl.asked })) :=
      h.putBoth (h.only hsv hlink).1 (h.only hsv hlink).2 (h.servers hsv)
        ⟨htracked, hok.noOptions⟩ hlink rfl hs hfits
    have hsame : w.putServer s (some sv) = w := by simp [World.putServer, ← hsv]
    rw [hsame] at hboth
    exact hboth

theorem WorldOk.step_startup (h : WorldOk names b w) {params options : List (Bytes × Bytes)}
    {replication : Bool} (hcond : replication = true → ∀ o ∈ options, lookup names o.1 = none)
    (hstep : w.step names b (.startup c params replication options) = some w') :
    WorldOk names b w' := by
  simp only [World.step] at hstep
  split at hstep
  · cases hstep
  rename_i hnew
  split at hstep
  · cases hstep
    exact h
  rename_i vars hvars
  cases hstep
  have hrest : ∀ i, (if replication = true then
      (options.reverse.find? fun o => decide (lookup names o.1 = some i)).map Prod.snd
      else none) = none := by
    intro i
    split
    · rename_i hrep
      rw [Option.map_eq_none_iff, List.find?_eq_none]
      intro o ho
      simp [hcond hrep o (List.mem_reverse.1 ho)]
    · rfl
  have hlt := lt_of_setAll hvars fun i v hv => (nomatch hv)
  refine h.putClient (fun cl hcl => ?_) fun cl heq => ?_
  · rw [hcl] at hnew
    exact absurd rfl hnew
  · cases heq
    have hasked : (fun i => (vars i).or (if replication = true then
        (options.reverse.find? fun o => decide (lookup names o.1 = some i)).map Prod.snd
        else none)) = vars := funext fun i => by rw [hrest i, Option.or_none]
    refine ⟨⟨fun i a ha => hlt i a ?_, hrest⟩, rfl, settled_same hasked⟩
    rw [← hasked]
    exact ha

theorem canStart_iff : World.canStart names b values = true ↔
    ∀ i < names.length, b.startup i (values.getD i []) = some (values.getD i []) := by
  simp [World.canStart]

theorem WorldOk.step_login (h : WorldOk names b w)
    (hstep : w.step names b (.login s values) = some w') : WorldOk names b w' := by
  simp only [World.step] at hstep
  split at hstep
  swap
  · cases hstep
  rename_i hcan
  cases hstep
  refine (h.addWelcome _).putServer (fun sv hsv => ?_) fun sv heq => ?_
  · rw [(addWelcome_servers w _).1] at hsv
    simp [hsv] at hcan
  · cases heq
    exact ⟨serverOk_new (canStart_iff.1 hcan.2), rfl⟩

theorem WorldOk.step_loginReplication (h : WorldOk names b w)
    (hstep : w.step names b (.loginReplication s c values) = some w') : WorldOk names b w' := by
  simp only [World.step] at hstep
  split at hstep
  · cases hstep
  rename_i cl hcl
  split at hstep
  swap
  · cases hstep
  rename_i hcan
  obtain ⟨hnone, hcan, -, hfree⟩ := hcan
  split at hstep
  · cases hstep
    exact h
  rename_i effective hstart
  cases hstep
  have hok := h.clients hcl
  obtain ⟨hcanonical, hpaired⟩ := @paired_loginReplication names b cl values effective hok
    (h.free hcl hfree) (canStart_iff.1 hcan) hstart (some { client := c }) (some s)
  refine (h.addWelcome effective).putBoth (fun sv l hsv _ => ?_) (fun cl' s' hcl' hs' => ?_)
    (serverOk_new hcanonical) ⟨fun i a ha => ?_, hok.noOptions⟩ rfl rfl rfl hpaired
  · rw [(addWelcome_servers w _).1] at hsv
    simp [hsv] at hnone
  · rw [(addWelcome_servers w _).2] at hcl'
    cases hcl.symm.trans hcl'
    cases hfree.symm.trans hs'
  · cases hask : cl.asked i with
    | some a' => exact hok.tracked i a' hask
    | none =>
      simp only [hask, Option.none_or] at ha
      exact (lt_of_reported ha).1

theorem WorldOk.step_findServer (h : WorldOk names b w)
    (hcond : Settable names b w (.findServer s c))
    (hstep : w.step names b (.findServer s c) = some w') : WorldOk names b w' := by
  simp only [World.step] at hstep
  split at hstep
  swap
  · cases hstep
  rename_i sv cl hsv hcl
  obtain ⟨hquery, hcond⟩ := hcond sv cl hsv hcl
  split at hstep
  · -- the link is there, and it is not that of an auth_query
    rename_i hlinked
    cases hstep
    obtain ⟨sv', l, hsv', hl, rfl⟩ := h.back hcl hlinked.1
    cases hsv.symm.trans hsv'
    have hsame : some { sv with link := some { client := l.client } } = w.servers s := by
      rw [hsv, ← hquery l hl, ← hl]
    rw [World.putServer, hsame, Function.update_eq_self]
    exact { h with }
  split at hstep
  swap
  · cases hstep
  rename_i hcan
  obtain ⟨hl, -, hback, hwelcomed, -⟩ := hcan
  cases hstep
  have hserver := h.servers hsv
  have hclient := h.clients hcl
  refine h.putBoth (fun sv' l hsv' hl' => ?_) (fun cl' s' hcl' hs' => ?_)
    ⟨hserver.known, hserver.default, nodup_varcacheApply _ _ _, fun x hx => ?_,
      fun _ => ⟨_, rfl, rfl⟩⟩
    ⟨hclient.tracked, hclient.noOptions⟩ rfl rfl rfl
    (paired_findServer hserver hclient (h.free hcl hback) hwelcomed hcond)
  · cases hsv.symm.trans hsv'
    cases hl.symm.trans hl'
  · cases hcl.symm.trans hcl'
    cases hback.symm.trans hs'
  · obtain ⟨i, hi, hx⟩ := mem_varcacheApply.1 hx
    rw [index_of_applyVar hx]
    exact hi

theorem WorldOk.step_authQuery (h : WorldOk names b w)
    (hstep : w.step names b (.authQuery s c) = some w') : WorldOk names b w' := by
  simp only [World.step] at hstep
  split at hstep
  swap
  · cases hstep
  rename_i sv cl hsv hcl
  split at hstep
  swap
  · cases hstep
  rename_i hcan
  obtain ⟨hl, hpending, hback, -⟩ := hcan
  cases hstep
  have hserver := h.servers hsv
  have hclient := h.clients hcl
  have hsettled := h.free hcl hback
  refine h.putBoth (fun sv' l hsv' hl' => ?_) (fun cl' s' hcl' hs' => ?_)
    { hserver with linked := fun hne => absurd hpending hne }
    ⟨hclient.tracked, hclient.noOptions⟩ rfl rfl rfl
    (show Settled b _ from ⟨hsettled.vars, hsettled.recorded⟩)
  · cases hsv.symm.trans hsv'
    cases hl.symm.trans hl'
  · cases hcl.symm.trans hcl'
    cases hback.symm.trans hs'

/-- A server is closed, with its client. -/
theorem WorldOk.disconnectServer (h : WorldOk names b w) (hsv : w.servers s = some sv) :
    WorldOk names b (w.disconnectServer s sv) := by
  unfold World.disconnectServer
  dsimp only
  split
  · rename_i l hl
    exact h.unlink hsv hl (fun _ heq => (nomatch heq)) nofun
  · rename_i hl
    refine h.putServer (fun sv' hsv' => ?_) nofun
    cases hsv.symm.trans hsv'
    exact hl

theorem setCanonical_none (orig sval : Option Bytes) : (setCanonical orig sval none).2 = none := by
  unfold setCanonical
  split <;> rfl

theorem WorldOk.step_answer (h : WorldOk names b w) (hstep : w.step names b (.answer s) = some w') :
    WorldOk names b w' := by
  simp only [World.step, World.answerStep] at hstep
  split at hstep
  · cases hstep
  rename_i sv hsv
  split at hstep
  · cases hstep
  rename_i l hl
  split at hstep
  · cases hstep
  rename_i cl hcl
  split at hstep
  · cases hstep
  rename_i hpending
  split at hstep
  · cases hstep
    exact h.disconnectServer hsv
  rename_i effective hexec
  cases hstep
  have hserver := h.servers hsv
  have hclient := h.clients hcl
  obtain ⟨l', hl', hauth⟩ := hserver.linked (by simpa using hpending)
  cases hl.symm.trans hl'
  have hpaired : Paired names b sv cl := by
    have hfits := h.pair hsv hl hcl
    rw [Fits, hauth, if_neg Bool.false_ne_true] at hfits
    exact hfits
  obtain ⟨hserver', hpaired'⟩ := paired_answer hserver hpaired h.orig hexec fun _ => rfl
  obtain ⟨cl', hcl', hback⟩ := h.link hsv hl
  cases hcl.symm.trans hcl'
  refine h.putBoth (h.only hsv hl).1 (h.only hsv hl).2 hserver' ⟨fun i a ha => ?_,
    hclient.noOptions⟩ hl rfl hback ?_
  · by_contra hi
    have hask : cl.asked i = none := by
      by_contra hne
      obtain ⟨a', ha'⟩ := Option.ne_none_iff_exists'.1 hne
      exact hi (hclient.tracked i a' ha')
    have hvars : cl.vars i = none := by
      by_contra hne
      obtain ⟨v, hv⟩ := Option.ne_none_iff_exists'.1 hne
      rcases hpaired.vars i v hv with ⟨a', ha', -⟩ | ⟨⟨x, hx, hindex⟩, -⟩
      · exact hi (hclient.tracked i a' ha')
      · exact hi (hindex ▸ hserver.tracked x hx)
    simp [hask, hi, hvars, setCanonical_none] at ha
  · rw [Fits, hauth, if_neg Bool.false_ne_true]
    exact hpaired'

theorem WorldOk.step_parameterStatus (h : WorldOk names b w) {key value : Bytes}
    (hcond : Settable names b w (.parameterStatus s key value))
    (hstep : w.step names b (.parameterStatus s key value) = some w') : WorldOk names b w' := by
  simp only [World.step] at hstep
  split at hstep
  · rename_i sv i hsv hlookup
    split at hstep
    swap
    · cases hstep
    rename_i hvalue
    have hserver := (h.servers hsv).report hvalue.2
    split at hstep
    · rename_i hl
      cases hstep
      refine h.putServer (fun sv' hsv' => ?_) fun sv' heq => ?_
      · cases hsv.symm.trans hsv'
        exact hl
      · cases heq
        exact ⟨hserver, hl⟩
    · rename_i l hl
      obtain ⟨cl, hcl, hback⟩ := h.link hsv hl
      have hauth : l.authQuery = false := by
        by_contra hauth
        cases hlookup.symm.trans (hcond sv l hsv hl (by simpa using hauth))
      have hpaired : Paired names b sv cl := by
        have hfits := h.pair hsv hl hcl
        rw [Fits, hauth, if_neg Bool.false_ne_true] at hfits
        exact hfits
      have hclient := h.clients hcl
      simp only [hcl, Option.map_some, hauth, Bool.not_false, Bool.true_and,
        Option.some.injEq] at hstep
      rw [← hstep]
      refine h.putBoth (h.only hsv hl).1 (h.only hsv hl).2 hserver ⟨fun j a ha => ?_,
        hclient.noOptions⟩ hl rfl hback ?_
      · by_cases hji : j = i
        · rw [hji]
          exact lookup_lt hlookup
        · refine hclient.tracked j a ?_
          simp only [World.tell] at ha
          split at ha
          · rw [Function.update_of_ne hji] at ha
            exact ha
          · exact ha
      · rw [Fits, hauth, if_neg Bool.false_ne_true]
        exact hpaired.report hvalue.1 hvalue.2
  · cases hstep
    exact h
  · cases hstep

/-- A client whose server is not being set up for it means what is recorded of it. -/
theorem WorldOk.settled (h : WorldOk names b w) (hsv : w.servers s = some sv)
    (hl : sv.link = some l) (hpending : sv.pending = []) (hcl : w.clients l.client = some cl) :
    Settled b cl := by
  have hfits := h.pair hsv hl hcl
  unfold Fits at hfits
  split at hfits
  · exact hfits
  · exact hfits.settled hpending

theorem WorldOk.step_release (h : WorldOk names b w)
    (hstep : w.step names b (.release s) = some w') : WorldOk names b w' := by
  simp only [World.step] at hstep
  split at hstep
  · cases hstep
  rename_i sv hsv
  split at hstep
  · cases hstep
  rename_i l hl
  split at hstep
  swap
  · cases hstep
  rename_i hpending
  cases hstep
  have hserver := h.servers hsv
  refine h.unlink hsv hl (fun sv' heq => ?_) fun cl' heq => ?_
  · cases heq
    exact ⟨{ hserver with linked := fun hne => absurd hpending hne }, rfl⟩
  · obtain ⟨cl, hcl, rfl⟩ := Option.map_eq_some_iff.1 heq
    have hsettled := h.settled hsv hl hpending hcl
    exact ⟨⟨(h.clients hcl).tracked, (h.clients hcl).noOptions⟩, rfl,
      ⟨hsettled.vars, hsettled.recorded⟩⟩

theorem WorldOk.step_closeClient (h : WorldOk names b w) {keep : Bool}
    (hstep : w.step names b (.closeClient c keep) = some w') : WorldOk names b w' := by
  simp only [World.step] at hstep
  split at hstep
  · cases hstep
  rename_i cl hcl
  split at hstep
  · rename_i hback
    cases hstep
    refine h.putClient (fun cl' hcl' => ?_) nofun
    cases hcl.symm.trans hcl'
    exact hback
  · rename_i s hback
    cases hstep
    obtain ⟨sv, l, hsv, hl, rfl⟩ := h.back hcl hback
    have hserver := h.servers hsv
    refine h.unlink hsv hl (fun sv' heq => ?_) nofun
    rw [hsv, Option.bind_some] at heq
    split at heq
    swap
    · cases heq
    rename_i hkeep
    cases heq
    exact ⟨{ hserver with linked := fun hne => absurd hkeep.2 hne }, rfl⟩

theorem WorldOk.step (h : WorldOk names b w) {e : Event} {w' : World}
    (hcond : Settable names b w e) (hstep : w.step names b e = some w') : WorldOk names b w' := by
  cases e with
  | startup c params replication options => exact h.step_startup hcond hstep
  | welcome c => exact h.step_welcome hstep
  | login s values => exact h.step_login hstep
  | loginReplication s c values => exact h.step_loginReplication hstep
  | findServer s c => exact h.step_findServer hcond hstep
  | authQuery s c => exact h.step_authQuery hstep
  | answer s => exact h.step_answer hstep
  | parameterStatus s key value => exact h.step_parameterStatus hcond hstep
  | release s => exact h.step_release hstep
  | closeServer s =>
    obtain ⟨sv, hsv, rfl⟩ := Option.map_eq_some_iff.1 hstep
    exact h.disconnectServer hsv
  | closeClient c keep => exact h.step_closeClient hstep
  | tagPoolDirty =>
    cases hstep
    exact { h with }

/-! ### The result -/

/-- A server that has been set up for a client, or gets its packets, has the values the client
means. -/
def Follows (b : Backend) (w : World) : Prop :=
  ∀ s sv l cl, w.servers s = some sv → sv.link = some l → l.authQuery = false →
    sv.pending = [] → w.clients l.client = some cl →
      ∀ i a, cl.asked i = some a → b.startup i a = some (sv.effective i)

/-- **Session parameters follow the client**, in every run in which every SET that is needed
can be sent. -/
theorem parameters_follow {es : List Event}
    (hmeets : Run.Meets (World.step names b) (Settable names b) {} es)
    (hrun : World.run names b {} es = some w) : Follows b w := by
  have h : WorldOk names b w :=
    Run.invariant (fun h hcond hstep => h.step hcond hstep) hmeets hrun .initial
  intro s sv l cl hsv hl hauth hpending hcl i a ha
  have hfits := h.pair hsv hl hcl
  rw [Fits, hauth, if_neg Bool.false_ne_true] at hfits
  rcases hfits.value i a ha with ⟨value, hmem, -⟩ | ⟨-, hvalue⟩
  · rw [hpending] at hmem
    cases hmem
  · exact hvalue

/-- A backend that takes every value as it is. -/
def plainBackend : Backend where
  startup _ v := some v
  set i value := if i = 7 then some value else SqlLiteral.read value
  reports _ := true
  listQuote i := i = 7
  set_literal := by
    intro i value v hlist hread
    rw [if_neg (by simpa using hlist)]
    exact hread
  set_canonical _ := rfl
  startup_canonical _ := rfl

/-- A client that has asked for an application name gets a server. -/
def connected (name : Bytes) : List Event :=
  [.login 0 [], .startup 0 [(text "application_name", name)] false [], .welcome 0, .findServer 0 0]

theorem settable_short : Run.Meets (World.step staticNames plainBackend)
    (Settable staticNames plainBackend) {} (connected (text "psql") ++ [.answer 0]) := by
  refine ⟨trivial, fun w₁ h₁ => ⟨nofun, fun w₂ h₂ => ⟨trivial, fun w₃ h₃ =>
    ⟨?_, fun _ _ => ⟨trivial, fun _ _ => trivial⟩⟩⟩⟩⟩
  cases h₁
  cases h₂
  cases h₃
  intro sv cl hsv hcl
  cases hsv
  cases hcl
  refine ⟨nofun, fun i v hv hne => ?_⟩
  by_cases hi : i = 4
  · subst hi
    cases hv
    exact ⟨text "'psql'", by decide, fun h => absurd h (by decide)⟩
  · -- the other parameters are filled in from the server
    refine absurd ?_ hne
    have hname : lookup staticNames (text "application_name") = some 4 := by decide
    simpa only [varcacheFillUnset, varcacheSet, hname, World.putClient, World.putServer,
      World.addWelcome, Bool.false_eq_true, if_false, Function.update_of_ne hi, Option.none_or,
      Option.or_none] using hv

theorem parameters_follow_short :
    ∃ w, World.run staticNames plainBackend {} (connected (text "psql") ++ [.answer 0]) = some w ∧
      (w.servers 0).map (fun sv => (sv.pending, sv.effective 4)) = some ([], text "psql") ∧
      Follows plainBackend w := by
  refine Run.exists_of_any (P := fun w => (w.servers 0).map (fun sv =>
    (sv.pending, sv.effective 4)) = some ([], text "psql")) (by decide) ?_
  exact fun w hw hserver => ⟨hserver, parameters_follow settable_short hw⟩

/-- The name is too long to be quoted: no SET is sent, and the client has the server. -/
theorem long_value_not_set :
    ∃ w, World.run staticNames plainBackend {} (connected (List.replicate 130 97)) = some w ∧
      ¬ Follows plainBackend w := by
  have hrun : (World.run staticNames plainBackend {} (connected (List.replicate 130 97))).bind
      (fun w => (w.servers 0).bind fun sv => (w.clients 0).map fun cl =>
        (sv.link, sv.pending, sv.effective 4, cl.asked 4)) =
          some (some { client := 0 }, [], [], some (List.replicate 130 97)) := by
    decide +kernel
  obtain ⟨w, hw, hw'⟩ := Option.bind_eq_some_iff.1 hrun
  obtain ⟨sv, hsv, hsv'⟩ := Option.bind_eq_some_iff.1 hw'
  obtain ⟨cl, hcl, heq⟩ := Option.map_eq_some_iff.1 hsv'
  simp only [Prod.mk.injEq] at heq
  obtain ⟨hl, hpending, heffective, hasked⟩ := heq
  refine ⟨w, hw, fun hfollows => ?_⟩
  have hvalue := hfollows 0 sv _ cl hsv hl rfl hpending hcl 4 _ hasked
  rw [heffective] at hvalue
  cases hvalue

end PgBouncer.Vars
