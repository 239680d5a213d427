/-
The order of the pools, and which pool `get_pool` finds.

`pool_list` is ordered by two names that are not in the pools, and `get_pool` looks for a
global user instead of a name.  Both are right as long as credentials have the name of their
global user.  All of them do when they are made; but a reload that changes the user of a
database gives the new name to the forced credentials that are there, and leaves them with
their global user, and with the pools that have been put in order by the old name.

So the invariant `Sound` is about the databases.  The forced credentials of a database have
the name of their global user, or else no other credentials have a pool in it.  In the
second case there is one pool, and nothing to put in order.  `Steady` is what keeps this: the
user is changed only when the database has no pool of anyone else, and from then on nobody
else asks for one.  It also keeps apart two things that have nothing to do with renaming.
The name of a user is looked for as it is, but cut off when it is stored, so a long name is
not found again.  And a login that waits for its auth_query does not keep its database
from being dropped.
-/
import PgBouncer.PoolList
import Mathlib.Data.List.Basic

namespace PgBouncer.PoolList

/-! ### The order -/

/-- The order by two names. -/
def cmpKey (a b : Name × Name) : Ordering := (strcmp a.1 b.1).then (strcmp a.2 b.2)

instance : Std.TransCmp cmpKey :=
  inferInstanceAs (Std.TransCmp (compareLex (compareOn Prod.fst) (compareOn Prod.snd)))

theorem strcmp_ne {a b : Name} (h : a ≠ b) : strcmp a b ≠ .eq :=
  fun heq => h (Std.LawfulEqCmp.eq_of_compare heq)

theorem cmpKey_of_ne {a b : Name × Name} (h : a.1 ≠ b.1) : cmpKey a b = strcmp a.1 b.1 := by
  unfold cmpKey
  cases hcmp : strcmp a.1 b.1 with
  | eq => exact absurd hcmp (strcmp_ne h)
  | lt => rfl
  | gt => rfl

theorem cmpKey_of_eq {a b : Name × Name} (h : a.1 = b.1) : cmpKey a b = strcmp a.2 b.2 := by
  have hcmp : strcmp a.1 b.1 = .eq := h ▸ Std.ReflCmp.compare_self
  unfold cmpKey
  rw [hcmp]
  rfl

namespace World

/-- The names of the database and of the user of a pool. -/
def key (w : World) (p : Pool) : Name × Name :=
  ((w.database p.db).name, w.name p.userCredentials)

/-- `pool_list` is in order, with no pair of names twice. -/
def Ordered (w : World) : Prop :=
  w.poolList.Pairwise fun p q => cmpKey (w.key p) (w.key q) = .lt

/-! ### What a run has to keep to -/

/-- The name can be stored, or nobody has what is left of it. -/
def Storable (w : World) (user : Name) : Prop :=
  user.length < maxUsername ∨ safeStrcpy maxUsername user ∉ w.users

instance (w : World) (user : Name) : Decidable (w.Storable user) :=
  inferInstanceAs (Decidable (_ ∨ _))

/-- The forced credentials of a database have the name of their global user. -/
def Named (w : World) (d : Nat) : Prop :=
  ∀ forced ∈ (w.database d).forced, forced.name = forced.globalUser

instance (w : World) (d : Nat) : Decidable (w.Named d) :=
  inferInstanceAs (Decidable (∀ forced ∈ (w.database d).forced,
    forced.name = forced.globalUser))

/-- A database has no pool of other credentials than the forced ones. -/
def OnlyForced (w : World) (d : Nat) : Prop :=
  ∀ p ∈ w.poolList, p.db = d → p.userCredentials = .forced d

instance (w : World) (d : Nat) : Decidable (w.OnlyForced d) :=
  inferInstanceAs (Decidable (∀ p ∈ w.poolList, p.db = d → p.userCredentials = .forced d))

/-- The credentials that a database has are not given another name, unless they are the only
ones with a pool in it; if it has none, the name can be stored. -/
def MayForce (w : World) (d : Nat) (user : Name) : Prop :=
  match (w.database d).forced with
  | some forced => safeStrcpy maxUsername user = forced.name ∨ w.OnlyForced d
  | none => w.Storable user

instance (w : World) (d : Nat) (user : Name) : Decidable (w.MayForce d user) := by
  unfold MayForce
  split <;> infer_instance

/-- What has to be true before an event. -/
def Steady (w : World) : Event → Prop
  | .parseDatabase dbname user authUser =>
    (∀ name ∈ authUser, w.Storable name) ∧
      ∀ name ∈ user,
        ((w.addDatabase dbname).1.addAuthUser authUser).MayForce
          ((w.findDatabase dbname).getD w.nextDb) name
  | .findOrAddNewGlobalUser user => w.Storable user
  | .getPool d c => d ∈ w.databaseList ∧ (c = .forced d ∨ w.Named d)
  | .killDatabase _ | .killPool _ => True

instance (w : World) (e : Event) : Decidable (w.Steady e) := by
  cases e <;> unfold Steady <;> infer_instance

/-! ### The invariant -/

structure Sound (w : World) : Prop where
  running : w.fatal = false
  /-- A name that is stored is not cut off when it is stored again. -/
  stored : ∀ user ∈ w.users, user.length < maxUsername
  numbered : ∀ d ∈ w.databaseList, d < w.nextDb
  distinct : ∀ d ∈ w.databaseList, ∀ d' ∈ w.databaseList,
    (w.database d).name = (w.database d').name → d = d'
  database : ∀ p ∈ w.poolList, p.db ∈ w.databaseList
  credentials : ∀ p ∈ w.poolList, w.exist p.userCredentials ∧ fits p.db p.userCredentials
  named : ∀ d ∈ w.databaseList, w.Named d ∨ w.OnlyForced d
  ordered : w.Ordered

variable {w w' : World} {d : Nat} {user : Name} {c : Credentials} {p q : Pool}

/-- Credentials that fit to a database have the name of their global user, if the forced
ones do. -/
theorem Named.name_eq (h : w.Named d) (hfits : fits d c) : w.name c = w.globalUser c := by
  cases c with
  | own _ | dynamic _ _ | pam _ => rfl
  | forced d' =>
    obtain rfl : d' = d := of_decide_eq_true hfits
    simp only [name, globalUser]
    cases hforced : (w.database d').forced with
    | none => rfl
    | some forced => exact h forced hforced

/-- Pools that keep their names, or are dropped. -/
theorem Ordered.of_key (h : w.Ordered) (hsub : w'.poolList.Sublist w.poolList)
    (hkey : ∀ p ∈ w'.poolList, w'.key p = w.key p) : w'.Ordered :=
  (h.sublist hsub).imp_of_mem fun hp hq hlt => by rw [hkey _ hp, hkey _ hq, hlt]

/-! ### Users -/

theorem safeStrcpy_of_lt (h : user.length < maxUsername) : safeStrcpy maxUsername user = user :=
  List.take_of_length_le (Nat.le_sub_one_of_lt h)

theorem length_safeStrcpy : (safeStrcpy maxUsername user).length < maxUsername := by
  rw [safeStrcpy, List.length_take]
  exact Nat.lt_of_le_of_lt (Nat.min_le_left _ _) (by decide)

theorem exist_mono {users : List Name} (hsub : w.users ⊆ users) (h : w.exist c) :
    { w with users }.exist c := by
  cases c with
  | own user | dynamic _ user | pam user =>
    exact List.contains_iff_mem.mpr (hsub (List.contains_iff_mem.mp h))
  | forced _ => exact h

/-- More users change nothing. -/
theorem Sound.addUsers (h : w.Sound) {users : List Name} (hsub : w.users ⊆ users)
    (hstored : ∀ user ∈ users, user.length < maxUsername) : { w with users }.Sound where
  __ := h
  stored := hstored
  credentials p hp := ⟨exist_mono hsub (h.credentials p hp).1, (h.credentials p hp).2⟩

/-- A user whose name can be stored is found, or made. -/
theorem Sound.findOrAddNewGlobalUser_eq (h : w.Sound) (hname : w.Storable user) :
    ∃ users, w.findOrAddNewGlobalUser user = ({ w with users }, safeStrcpy maxUsername user) ∧
      w.users ⊆ users ∧ ∀ user ∈ users, user.length < maxUsername := by
  simp only [World.findOrAddNewGlobalUser]
  split_ifs with hfound hcut
  · have hlt := h.stored user (List.contains_iff_mem.mp hfound)
    exact ⟨w.users, by rw [safeStrcpy_of_lt hlt], fun _ => id, h.stored⟩
  · rcases hname with hlt | hnone
    · exact absurd (safeStrcpy_of_lt hlt ▸ hcut) hfound
    · exact absurd (List.contains_iff_mem.mp hcut) hnone
  · refine ⟨_, rfl, List.subset_cons_self _ _, fun user' hmem => ?_⟩
    rcases List.mem_cons.mp hmem with rfl | hmem
    · exact length_safeStrcpy
    · exact h.stored user' hmem

theorem Sound.findOrAddNewGlobalUser (h : w.Sound) (hname : w.Storable user) :
    (w.findOrAddNewGlobalUser user).1.Sound := by
  obtain ⟨users, heq, hsub, hstored⟩ := h.findOrAddNewGlobalUser_eq hname
  rw [heq]
  exact h.addUsers hsub hstored

/-! ### Databases -/

variable {dbname : Name} {d' : Nat} {forced : Forced} {authUser : Option Name}

theorem findDatabase_mem (h : w.findDatabase dbname = some d) :
    d ∈ w.databaseList :=
  List.mem_of_find?_eq_some h

theorem forced_of_fits (h : fits d (.forced d')) : d' = d := of_decide_eq_true h

/-- Credentials that are not the forced ones of the database that changes. -/
theorem name_update {db : Database} (hc : c ≠ .forced d) :
    { w with database := Function.update w.database d db }.name c = w.name c := by
  cases c with
  | own _ | dynamic _ _ | pam _ => rfl
  | forced d' =>
    have hne : d' ≠ d := fun heq => hc (heq ▸ rfl)
    simp only [name, Function.update_of_ne hne]

theorem exist_update {db : Database} (hc : c ≠ .forced d) :
    { w with database := Function.update w.database d db }.exist c = w.exist c := by
  cases c with
  | own _ | dynamic _ _ | pam _ => rfl
  | forced d' =>
    have hne : d' ≠ d := fun heq => hc (heq ▸ rfl)
    simp only [exist, Function.update_of_ne hne]

theorem newDatabase_self :
    (w.newDatabase dbname).database w.nextDb = { name := dbname } :=
  Function.update_self ..

theorem newDatabase_of_ne (h : d ≠ w.nextDb) :
    (w.newDatabase dbname).database d = w.database d :=
  Function.update_of_ne h ..

/-- A new database has a number that no pool has. -/
theorem Sound.newDatabase (h : w.Sound) (hnew : w.findDatabase dbname = none) :
    (w.newDatabase dbname).Sound := by
  have hold : ∀ d ∈ w.databaseList, d ≠ w.nextDb := fun d hd => Nat.ne_of_lt (h.numbered d hd)
  have hname : ∀ d ∈ w.databaseList, (w.database d).name ≠ dbname := fun d hd heq =>
    List.find?_eq_none.mp hnew d hd (decide_eq_true heq)
  have hpool : ∀ p ∈ w.poolList, p.userCredentials ≠ .forced w.nextDb := by
    intro p hp hc
    have hfits := (h.credentials p hp).2
    rw [hc] at hfits
    exact hold p.db (h.database p hp) (forced_of_fits hfits).symm
  refine ⟨h.running, h.stored, ?_, ?_, ?_, ?_, ?_, ?_⟩
  · intro d hd
    rcases List.mem_cons.mp hd with rfl | hd
    · exact Nat.lt_succ_self _
    · exact Nat.lt_succ_of_lt (h.numbered d hd)
  · intro d hd d' hd' heq
    rcases List.mem_cons.mp hd with rfl | hd <;> rcases List.mem_cons.mp hd' with rfl | hd'
    · rfl
    · rw [newDatabase_self, newDatabase_of_ne (hold d' hd')] at heq
      exact absurd heq.symm (hname d' hd')
    · rw [newDatabase_self, newDatabase_of_ne (hold d hd)] at heq
      exact absurd heq (hname d hd)
    · rw [newDatabase_of_ne (hold d hd), newDatabase_of_ne (hold d' hd')] at heq
      exact h.distinct d hd d' hd' heq
  · exact fun p hp => List.mem_cons_of_mem _ (h.database p hp)
  · refine fun p hp => ⟨?_, (h.credentials p hp).2⟩
    exact (exist_update (hpool p hp)).trans (h.credentials p hp).1
  · intro d hd
    unfold Named
    rcases List.mem_cons.mp hd with rfl | hd
    · rw [newDatabase_self]
      exact .inl fun _ hforced => nomatch hforced
    · rw [newDatabase_of_ne (hold d hd)]
      exact h.named d hd
  · refine h.ordered.of_key (List.Sublist.refl _) fun p hp => ?_
    rw [key, key, newDatabase_of_ne (hold p.db (h.database p hp))]
    exact congrArg (Prod.mk _) (name_update (hpool p hp))

/-- A database that is found has the number it was given. -/
theorem addDatabase_eq (dbname : Name) (h : (w.addDatabase dbname).2 = some d) :
    d = (w.findDatabase dbname).getD w.nextDb := by
  unfold addDatabase at h
  split at h
  · rename_i d' hfound
    rw [hfound]
    exact (Option.some.inj h).symm
  · rename_i hnew
    rw [hnew]
    split_ifs at h
    exact (Option.some.inj h).symm

theorem Sound.addDatabase (h : w.Sound) (dbname : Name) :
    (w.addDatabase dbname).1.Sound ∧
      ∀ d, (w.addDatabase dbname).2 = some d → d ∈ (w.addDatabase dbname).1.databaseList := by
  unfold World.addDatabase
  split
  · rename_i d' hfound
    refine ⟨h, ?_⟩
    rintro d ⟨⟩
    exact findDatabase_mem hfound
  · rename_i hnew
    split_ifs
    · exact ⟨h, fun _ hnone => nomatch hnone⟩
    · refine ⟨h.newDatabase hnew, ?_⟩
      rintro d ⟨⟩
      exact List.mem_cons_self

/-! ### Forced users -/

theorem setForced_self :
    (w.setForced d forced).database d = { w.database d with forced := some forced } :=
  Function.update_self ..

theorem setForced_of_ne (h : d' ≠ d) :
    (w.setForced d forced).database d' = w.database d' :=
  Function.update_of_ne h ..

theorem setForced_name :
    ((w.setForced d forced).database d').name = (w.database d').name := by
  by_cases heq : d' = d
  · rw [heq, setForced_self]
  · rw [setForced_of_ne heq]

/-- What does not depend on the forced credentials. -/
theorem Sound.setForced (h : w.Sound) (hnamed : forced.name = forced.globalUser ∨ w.OnlyForced d)
    (hordered : (w.setForced d forced).Ordered) : (w.setForced d forced).Sound where
  __ := h
  distinct d₁ hd₁ d₂ hd₂ heq := by
    rw [setForced_name, setForced_name] at heq
    exact h.distinct d₁ hd₁ d₂ hd₂ heq
  credentials p hp := by
    refine ⟨?_, (h.credentials p hp).2⟩
    by_cases hc : p.userCredentials = .forced d
    · rw [hc, exist, setForced_self]
      rfl
    · exact (exist_update hc).trans (h.credentials p hp).1
  named d' hd' := by
    by_cases heq : d' = d
    · subst heq
      refine hnamed.imp (fun hname forced' hforced => ?_) id
      rw [setForced_self] at hforced
      exact Option.some.inj hforced ▸ hname
    · unfold Named
      rw [setForced_of_ne heq]
      exact h.named d' hd'
  ordered := hordered

/-- The names of the pools stay if the forced credentials keep theirs, or have no pool. -/
theorem Sound.ordered_of_kept (h : w.Sound)
    (hkept : ∀ old ∈ (w.database d).forced, forced.name = old.name) :
    (w.setForced d forced).Ordered := by
  refine h.ordered.of_key (List.Sublist.refl _) fun p hp => ?_
  rw [key, key, setForced_name]
  refine congrArg (Prod.mk _) ?_
  by_cases hc : p.userCredentials = .forced d
  · have hexist := (h.credentials p hp).1
    rw [hc, exist] at hexist
    obtain ⟨old, hold⟩ := Option.isSome_iff_exists.mp hexist
    rw [hc, name, name, setForced_self, hold]
    exact hkept old hold
  · exact name_update hc

/-- There is nothing to put in order in a database with one pool. -/
theorem Sound.ordered_of_onlyForced (h : w.Sound) (honly : w.OnlyForced d) :
    (w.setForced d forced).Ordered := by
  refine h.ordered.imp_of_mem fun {p q} hp hq hlt => ?_
  by_cases hdb : p.db = q.db
  · -- of two pools in this database only one can have the forced credentials
    have hkeep : ∀ p' ∈ w.poolList, p'.db ≠ d →
        (w.setForced d forced).key p' = w.key p' := by
      intro p' hp' hne
      rw [key, key, setForced_name]
      refine congrArg (Prod.mk _) (name_update fun hc => hne ?_)
      have hfits := (h.credentials p' hp').2
      rw [hc] at hfits
      exact (forced_of_fits hfits).symm
    by_cases hd : p.db = d
    · have heq : w.key p = w.key q := by
        rw [key, key, honly p hp hd, honly q hq (hdb ▸ hd), hdb]
      rw [heq] at hlt
      exact nomatch hlt.symm.trans (@Std.ReflCmp.compare_self _ cmpKey _ _)
    · rw [hkeep p hp hd, hkeep q hq (hdb ▸ hd)]
      exact hlt
  · have hne : (w.database p.db).name ≠ (w.database q.db).name := fun heq =>
      hdb (h.distinct _ (h.database p hp) _ (h.database q hq) heq)
    rw [cmpKey_of_ne hne] at hlt
    rw [cmpKey_of_ne (by simpa only [key, setForced_name] using hne)]
    simpa only [key, setForced_name] using hlt

theorem Sound.forceUserCredentials (h : w.Sound) (hd : d ∈ w.databaseList)
    (hmay : w.MayForce d user) : (w.forceUserCredentials d user).Sound := by
  unfold MayForce at hmay
  unfold World.forceUserCredentials
  cases hforced : (w.database d).forced with
  | some old =>
    rw [hforced] at hmay
    rcases hmay with hkept | honly
    · refine h.setForced ?_ (h.ordered_of_kept fun old' hold => ?_)
      · refine (h.named d hd).imp (fun hnamed => ?_) id
        exact hkept.trans (hnamed old hforced)
      · rw [hforced] at hold
        exact Option.some.inj hold ▸ hkept
    · exact h.setForced (.inr honly) (h.ordered_of_onlyForced honly)
  | none =>
    rw [hforced] at hmay
    obtain ⟨users, heq, hsub, hstored⟩ := h.findOrAddNewGlobalUser_eq hmay
    simp only [heq]
    have h' := h.addUsers hsub hstored
    refine h'.setForced (.inl rfl) (h'.ordered_of_kept fun old hold => ?_)
    exact nomatch hforced.symm.trans hold

theorem Sound.addAuthUser (h : w.Sound) (hname : ∀ name ∈ authUser, w.Storable name) :
    (w.addAuthUser authUser).Sound := by
  cases authUser with
  | none => exact h
  | some name => exact h.findOrAddNewGlobalUser (hname name rfl)

theorem addAuthUser_databaseList :
    (w.addAuthUser authUser).databaseList = w.databaseList := by
  cases authUser with
  | none => rfl
  | some name =>
    simp only [addAuthUser, World.findOrAddNewGlobalUser]
    split_ifs <;> rfl

theorem addDatabase_users : (w.addDatabase dbname).1.users = w.users := by
  unfold World.addDatabase
  split
  · rfl
  · split_ifs <;> rfl

/-- A line of the section `[databases]`. -/
theorem Sound.parseDatabase (h : w.Sound) {user : Option Name}
    (hsteady : w.Steady (.parseDatabase dbname user authUser)) :
    (w.parseDatabase dbname user authUser).Sound := by
  obtain ⟨hauth, huser⟩ := hsteady
  obtain ⟨hadded, hmem⟩ := h.addDatabase dbname
  have hnumber : ∀ d, (w.addDatabase dbname).2 = some d → _ := fun d => addDatabase_eq dbname
  have hauth' : ∀ name ∈ authUser, (w.addDatabase dbname).1.Storable name := by
    intro name hname
    unfold Storable
    rw [addDatabase_users]
    exact hauth name hname
  unfold World.parseDatabase
  cases hadd : w.addDatabase dbname with
  | mk w₁ found =>
    rw [hadd] at hadded hmem huser hauth' hnumber
    cases found with
    | none => exact hadded
    | some d =>
      have hwith := hadded.addAuthUser hauth'
      cases user with
      | none => exact hwith
      | some name =>
        refine hwith.forceUserCredentials ?_ (hnumber d rfl ▸ huser name rfl)
        rw [addAuthUser_databaseList]
        exact hmem d rfl

/-! ### Pools -/

/-- Pools that are dropped, with their database or without. -/
theorem Sound.drop (h : w.Sound) {databaseList : List Nat} {poolList : List Pool}
    (hdb : databaseList ⊆ w.databaseList) (hpool : poolList.Sublist w.poolList)
    (hleft : ∀ p ∈ poolList, p.db ∈ databaseList) :
    { w with databaseList, poolList }.Sound where
  running := h.running
  stored := h.stored
  numbered d hd := h.numbered d (hdb hd)
  distinct d hd d' hd' := h.distinct d (hdb hd) d' (hdb hd')
  database := hleft
  credentials p hp := h.credentials p (hpool.subset hp)
  named d hd := (h.named d (hdb hd)).imp id fun honly p hp => honly p (hpool.subset hp)
  ordered := h.ordered.of_key hpool fun _ _ => rfl

theorem Sound.killDatabase (h : w.Sound) : (w.killDatabase d).Sound := by
  refine h.drop List.filter_sublist.subset List.filter_sublist fun p hp => ?_
  obtain ⟨hp, hne⟩ := List.mem_filter.mp hp
  exact List.mem_filter.mpr ⟨h.database p hp, hne⟩

theorem Sound.killPool (h : w.Sound) : { w with poolList := w.poolList.filter (· ≠ p) }.Sound :=
  h.drop (fun _ => id) List.filter_sublist fun q hq => h.database q (List.mem_of_mem_filter hq)

/-- Two pools of a database have the same name if they have the same global user, and only
then. -/
theorem Sound.name_iff (h : w.Sound) (hd : d ∈ w.databaseList) (hfits : fits d c)
    (hask : c = .forced d ∨ w.Named d) (hp : p ∈ w.poolList) (hdb : p.db = d) :
    w.name p.userCredentials = w.name c ↔
      w.globalUser p.userCredentials = w.globalUser c := by
  have hfits' : fits d p.userCredentials := hdb ▸ (h.credentials p hp).2
  have hcase : p.userCredentials = c ∨ w.Named d := by
    rcases hask with rfl | hnamed
    · exact (h.named d hd).symm.imp (fun honly => honly p hp hdb) id
    · exact .inr hnamed
  rcases hcase with rfl | hnamed
  · exact iff_of_true rfl rfl
  · rw [hnamed.name_eq hfits, hnamed.name_eq hfits']

/-- `cmp_pool` compares the names. -/
theorem Sound.cmpPool_eq (h : w.Sound) (hd : d ∈ w.databaseList) (hp : p ∈ w.poolList) :
    w.cmpPool p ⟨d, c⟩ = cmpKey (w.key p) (w.key ⟨d, c⟩) := by
  unfold cmpPool
  dsimp only
  split_ifs with hdb hc
  · rw [cmpKey_of_ne fun heq => hdb (h.distinct _ (h.database p hp) d hd heq)]
    rfl
  · rw [cmpKey_of_eq (congrArg (fun d => (w.database d).name) (not_not.mp hdb))]
    rfl
  · have heq : w.key p = w.key ⟨d, c⟩ := by
      rw [key, key, not_not.mp hdb, not_not.mp hc]
    rw [heq]
    exact (@Std.ReflCmp.compare_self _ cmpKey _ _).symm

/-- `new_pool` finds a place for a pool that `get_pool` has not found. -/
theorem Sound.newPool (h : w.Sound) (hd : d ∈ w.databaseList) (hexist : w.exist c)
    (hfits : fits d c) (hask : c = .forced d ∨ w.Named d)
    (hnone : ∀ p ∈ w.poolList, p.db = d → w.globalUser p.userCredentials ≠ w.globalUser c) :
    (w.newPool d c).1.Sound ∧ (w.newPool d c).2 = some ⟨d, c⟩ := by
  have hcmp : ∀ p ∈ w.poolList, w.cmpPool p ⟨d, c⟩ = cmpKey (w.key p) (w.key ⟨d, c⟩) :=
    fun p hp => h.cmpPool_eq hd hp
  have hne : ∀ p ∈ w.poolList, w.cmpPool p ⟨d, c⟩ ≠ .eq := by
    intro p hp heq
    rw [hcmp p hp] at heq
    by_cases hdb : p.db = d
    · rw [cmpKey_of_eq (congrArg (fun d => (w.database d).name) hdb)] at heq
      have hname := Std.LawfulEqCmp.eq_of_compare heq
      exact hnone p hp hdb ((h.name_iff hd hfits hask hp hdb).mp hname)
    · have hdiff : (w.key p).1 ≠ (w.key ⟨d, c⟩).1 := fun hsame =>
        hdb (h.distinct _ (h.database p hp) d hd hsame)
      rw [cmpKey_of_ne hdiff] at heq
      exact strcmp_ne hdiff heq
  obtain ⟨poolList, hput⟩ := PutInOrder.exists_put hne
  have hmem : ∀ p ∈ poolList, p = ⟨d, c⟩ ∨ p ∈ w.poolList := fun p hp =>
    List.mem_cons.mp ((PutInOrder.perm_of_put hput).mem_iff.mp hp)
  simp only [World.newPool, hput, and_true]
  refine ⟨h.running, h.stored, h.numbered, h.distinct, ?_, ?_, ?_, ?_⟩
  · intro p hp
    rcases hmem p hp with rfl | hp
    · exact hd
    · exact h.database p hp
  · intro p hp
    rcases hmem p hp with rfl | hp
    · exact ⟨hexist, hfits⟩
    · exact h.credentials p hp
  · intro d' hd'
    by_cases hnamed : w.Named d'
    · exact .inl hnamed
    · refine .inr fun p hp hdb => ?_
      rcases hmem p hp with rfl | hp
      · subst hdb
        exact hask.resolve_right hnamed
      · exact (h.named d' hd').resolve_left hnamed p hp hdb
  · exact PutInOrder.pairwise_put (fun p hp hlt => (hcmp p hp).symm.trans hlt)
      (fun p hp hgt => Std.OrientedCmp.gt_iff_lt.mp ((hcmp p hp).symm.trans hgt))
      (fun _ _ _ _ => Std.TransCmp.lt_trans) h.ordered hput

/-- `get_pool` returns a pool of the database with the name it was asked for. -/
theorem Sound.getPool (h : w.Sound) (hsteady : w.Steady (.getPool d c)) (hexist : w.exist c)
    (hfits : fits d c) :
    (w.getPool d c).1.Sound ∧
      ∃ p, (w.getPool d c).2 = some p ∧ p.db = d ∧ w.name p.userCredentials = w.name c := by
  obtain ⟨hd, hask⟩ := hsteady
  unfold World.getPool
  split
  · rename_i p hfind
    have hp := List.mem_of_find?_eq_some hfind
    have hfound := List.find?_some hfind
    simp only [Bool.and_eq_true, decide_eq_true_eq] at hfound
    exact ⟨h, p, rfl, hfound.2, (h.name_iff hd hfits hask hp hfound.2).mpr hfound.1⟩
  · rename_i hfind
    obtain ⟨hsound, hnew⟩ := h.newPool hd hexist hfits hask fun p hp hdb huser =>
      List.find?_eq_none.mp hfind p hp (by simp [hdb, huser])
    exact ⟨hsound, _, hnew, rfl, rfl⟩

/-! ### Runs -/

theorem sound_init : Sound {} where
  running := rfl
  stored _ h := nomatch h
  numbered _ h := nomatch h
  distinct _ h := nomatch h
  database _ h := nomatch h
  credentials _ h := nomatch h
  named _ h := nomatch h
  ordered := .nil

theorem Sound.step {e : Event} (h : w.Sound) (hsteady : w.Steady e)
    (hstep : w.step e = some w') : w'.Sound := by
  have hrunning : ¬w.fatal = true := by simp [h.running]
  unfold World.step at hstep
  rw [if_neg hrunning] at hstep
  cases e with
  | parseDatabase dbname user authUser => exact Option.some.inj hstep ▸ h.parseDatabase hsteady
  | findOrAddNewGlobalUser user => exact Option.some.inj hstep ▸ h.findOrAddNewGlobalUser hsteady
  | killDatabase d => exact Option.some.inj hstep ▸ h.killDatabase
  | killPool p => exact Option.some.inj hstep ▸ h.killPool
  | getPool d c =>
    simp only [Option.ite_none_right_eq_some, Option.some.injEq, Bool.and_eq_true] at hstep
    obtain ⟨⟨⟨-, hexist⟩, hfits⟩, rfl⟩ := hstep
    exact (h.getPool hsteady hexist hfits).1

/-- **The pools are in order, and `get_pool` returns the one it is asked for.**  In every run
whose events are steady, `put_in_order` has not given up, `pool_list` is strictly ordered by
the names of database and user, and so has no pair of names twice; and the next steady
`get_pool` returns a pool with the name of the credentials. -/
theorem pools_in_order {es : List Event} (hsteady : Run.Meets World.step Steady {} es)
    (hrun : World.run {} es = some w) :
    w.fatal = false ∧ w.Ordered ∧
      ∀ d c, w.Steady (.getPool d c) → w.exist c → fits d c →
        ∃ p, (w.getPool d c).2 = some p ∧ p.db = d ∧ w.name p.userCredentials = w.name c := by
  have h : w.Sound := Run.invariant Sound.step hsteady hrun sound_init
  exact ⟨h.running, h.ordered, fun d c hget hexist hfits => (h.getPool hget hexist hfits).2⟩

/-- The database `d` with the user `a`, who has a pool, and becomes `c`; and then the database
`e`, which asks `a` to log in. -/
def renamedRun : List Event :=
  [.parseDatabase [100] (some [97]) none, .getPool 0 (.forced 0),
    .parseDatabase [100] (some [99]) none, .parseDatabase [101] none none,
    .findOrAddNewGlobalUser [97], .getPool 1 (.own [97])]

theorem pools_in_order_renamed :
    ∃ w, World.run {} renamedRun = some w ∧ w.fatal = false ∧ w.Ordered ∧
      ∀ d c, w.Steady (.getPool d c) → w.exist c → fits d c →
        ∃ p, (w.getPool d c).2 = some p ∧ p.db = d ∧ w.name p.userCredentials = w.name c := by
  have hsome : (World.run {} renamedRun).isSome := by decide
  obtain ⟨w, hrun⟩ := Option.isSome_iff_exists.mp hsome
  exact ⟨w, hrun, pools_in_order (by decide) hrun⟩

/-- The same database, where a user `b` has a pool to ask for passwords, and `a` is renamed.
If the new name is `c`, then the pools are out of order, and the pool that `a` gets is the one
of `c`; and if it is `b`, the next pool of this name is the end. -/
theorem renamed_user_breaks_order :
    (∃ w, World.run {} [.parseDatabase [100] (some [97]) none, .getPool 0 (.forced 0),
        .findOrAddNewGlobalUser [98], .getPool 0 (.own [98]),
        .parseDatabase [100] (some [99]) none] = some w ∧
      ¬w.Ordered ∧ w.exist (.own [97]) ∧
        (w.getPool 0 (.own [97])).2.map (fun p => w.name p.userCredentials) = some [99]) ∧
    ∃ w, World.run {} [.parseDatabase [100] (some [97]) none, .getPool 0 (.forced 0),
        .parseDatabase [100] (some [98]) none, .findOrAddNewGlobalUser [98],
        .getPool 0 (.own [98])] = some w ∧ w.fatal = true := by
  refine ⟨⟨_, rfl, ?_, ?_, ?_⟩, _, rfl, ?_⟩
  · unfold Ordered
    decide
  all_goals decide

end World

end PgBouncer.PoolList
