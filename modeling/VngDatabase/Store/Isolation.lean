import VngDatabase.Store.Mvcc
import VngDatabase.Transition

/-!
# What readers of the row store see

Transactions take an identifier with `beginXid`, register write intents, write and release, in any
order and any number at once (`History`).
-/

namespace VngDatabase.Store

open List Option Function

/-- **A row store**, and the transactions that have released. -/
structure History where
  store : PagedRowStore
  released : List Xid

inductive StoreAction
  | beginXid
  | beginWriteIntent (xid : Xid) (key : String)
  | insert (xid : Xid) (key : String) (data : RowData)
  | delete (xid : Xid) (key : String)
  | releaseWriteIntents (xid : Xid)

namespace History

def new (pageSize : ℕ) : History := ⟨.new pageSize, []⟩

def Begun (h : History) (xid : Xid) : Prop := 0 < xid ∧ xid < h.store.nextXid

instance (h : History) (xid : Xid) : Decidable (h.Begun xid) :=
  inferInstanceAs (Decidable (_ ∧ _))

def step (h : History) : StoreAction → Option History
  | .beginXid => some { h with store := h.store.beginXid.1 }
  | .beginWriteIntent xid key =>
    if h.Begun xid then
      match h.store.beginWriteIntent xid key with
      | .ok store => some { h with store := store }
      | .error _ => some h
    else none
  | .insert xid key data =>
    if h.Begun xid then some { h with store := h.store.insert xid key data } else none
  | .delete xid key =>
    if h.Begun xid then some { h with store := (h.store.delete xid key).1 } else none
  | .releaseWriteIntents xid =>
    if h.Begun xid then
      some { store := h.store.releaseWriteIntents xid, released := xid :: h.released }
    else none

end History

def StoreAction.written : StoreAction → Option (Xid × String)
  | .insert xid key _ => some (xid, key)
  | .delete xid key => some (xid, key)
  | _ => none

def StoreAction.intended : StoreAction → Option (Xid × String)
  | .beginWriteIntent xid key => some (xid, key)
  | _ => none

namespace History

variable {h h' : History} {a : StoreAction}

/-! ### What a call does -/

/-- **Everything a call can do.** -/
inductive Effect (h : History) (a : StoreAction) (h' : History) : Prop
  /-- A new identifier, a refused intent, or a delete of no row. -/
  | quiet (versions : h'.store.versions = h.store.versions)
      (intents : h'.store.writeIntents = h.store.writeIntents) (released : h'.released = h.released)
  | intent (xid : Xid) (key : String) (action : a.intended = some (xid, key)) (pos : 0 < xid)
      (free : ∀ o ∈ h.store.writeIntents key, o = xid)
      (versions : h'.store.versions = h.store.versions)
      (intents : h'.store.writeIntents = Function.update h.store.writeIntents key (some xid))
      (released : h'.released = h.released)
  | write (v : RowVersion) (key : String) (action : a.written = some (v.xid, key))
      (versions : ∀ k, h'.store.versions k =
        if k = key then h.store.versions k ++ [v] else h.store.versions k)
      (intents : h'.store.writeIntents = h.store.writeIntents) (released : h'.released = h.released)
  | release (xid : Xid) (versions : h'.store.versions = h.store.versions)
      (intents : h'.store.writeIntents = fun k => (h.store.writeIntents k).filter (· ≠ xid))
      (released : h'.released = xid :: h.released)

theorem effect_of_step (hcap : h.store.maxRowsCap = 0) (hs : h.step a = some h') :
    h'.store.maxRowsCap = 0 ∧ Effect h a h' := by
  cases a with
  | beginXid =>
    obtain rfl := some.inj hs
    exact ⟨hcap, .quiet rfl rfl rfl⟩
  | beginWriteIntent xid key =>
    obtain ⟨hxid, hs⟩ := ite_none_right_eq_some.mp hs
    rcases h.store.beginWriteIntent_cases xid key with ⟨other, herr⟩ | ⟨hfree, hok⟩
    · rw [herr] at hs
      obtain rfl := some.inj hs
      exact ⟨hcap, .quiet rfl rfl rfl⟩
    · rw [hok] at hs
      obtain rfl := some.inj hs
      exact ⟨hcap, .intent xid key rfl hxid.1 hfree rfl rfl rfl⟩
  | insert xid key data =>
    obtain ⟨-, hs⟩ := ite_none_right_eq_some.mp hs
    obtain rfl := some.inj hs
    obtain ⟨hsame, hv⟩ := PagedRowStore.insert_spec hcap xid key data
    exact ⟨hsame.maxRowsCap.trans hcap, .write _ key rfl hv hsame.writeIntents rfl⟩
  | delete xid key =>
    obtain ⟨-, hs⟩ := ite_none_right_eq_some.mp hs
    obtain rfl := some.inj hs
    obtain ⟨hsame, hv⟩ := h.store.delete_spec xid key
    refine ⟨hsame.maxRowsCap.trans hcap, ?_⟩
    cases hflag : (h.store.delete xid key).2 with
    | true =>
      exact .write ⟨xid, true, ∅⟩ key rfl (fun k => by simpa [hflag] using hv k)
        hsame.writeIntents rfl
    | false => exact .quiet (funext fun k => by simpa [hflag] using hv k) hsame.writeIntents rfl
  | releaseWriteIntents xid =>
    obtain ⟨-, hs⟩ := ite_none_right_eq_some.mp hs
    obtain rfl := some.inj hs
    exact ⟨hcap, .release xid rfl rfl rfl⟩

/-- **They return the greatest version up to the snapshot.** -/
def SnapshotReads (h : History) : Prop :=
  ∀ key snapshotXid, h.store.readAtSnapshot key snapshotXid =
    (Versions.latestAt RowVersion.xid snapshotXid (h.store.versions key)).bind RowVersion.value

def InOrder (h : History) (a : StoreAction) : Prop :=
  ∀ w ∈ a.written, ∀ v ∈ (h.store.versions w.2).getLast?, v.xid ≤ w.1

def WritesPast (snapshotXid : Xid) (_ : History) (a : StoreAction) : Prop :=
  ∀ w ∈ a.written, snapshotXid < w.1

def Ordered (h : History) : Prop :=
  h.store.maxRowsCap = 0 ∧ ∀ k, (h.store.versions k).Pairwise fun v w => v.xid ≤ w.xid

theorem Ordered.step (hh : Ordered h) (hgood : InOrder h a) (hs : h.step a = some h') :
    Ordered h' := by
  obtain ⟨hcap, heff⟩ := effect_of_step hh.1 hs
  refine ⟨hcap, fun k => ?_⟩
  cases heff with
  | quiet hv _ _ => exact hv ▸ hh.2 k
  | intent _ _ _ _ _ hv _ _ => exact hv ▸ hh.2 k
  | release _ hv _ _ => exact hv ▸ hh.2 k
  | write v key hw hv _ _ =>
    rw [hv k]
    split_ifs with hk
    · subst hk
      exact Versions.pairwise_concat (hh.2 k) (hgood _ hw)
    · exact hh.2 k

theorem readAtSnapshot_of_step (hcap : h.store.maxRowsCap = 0) {snapshotXid : Xid}
    (hpast : WritesPast snapshotXid h a) (hs : h.step a = some h') (key : String) :
    h'.store.readAtSnapshot key snapshotXid = h.store.readAtSnapshot key snapshotXid := by
  rw [PagedRowStore.readAtSnapshot_eq, PagedRowStore.readAtSnapshot_eq]
  cases (effect_of_step hcap hs).2 with
  | quiet hv _ _ => rw [hv]
  | intent _ _ _ _ _ hv _ _ => rw [hv]
  | release _ hv _ _ => rw [hv]
  | write v k hw hv _ _ =>
    have hlt : snapshotXid < v.xid := hpast _ hw
    rw [hv key]
    split_ifs
    · rw [Versions.lastAtMost_concat_of_lt hlt]
    · rfl

/-- **Snapshot reads are right and stable** if writes are in order. -/
theorem snapshotReads_of_inOrder {pageSize : ℕ}
    (hr : Transition.ReachableIf step InOrder (new pageSize) h) :
    h.SnapshotReads ∧ ∀ snapshotXid h', Transition.ReachableIf step (WritesPast snapshotXid) h h' →
      ∀ key, h'.store.readAtSnapshot key snapshotXid = h.store.readAtSnapshot key snapshotXid := by
  have hord : Ordered h :=
    hr.invariant ⟨rfl, fun _ => List.Pairwise.nil⟩ fun hs hgood hstep => hs.step hgood hstep
  constructor
  · intro key snapshotXid
    rw [PagedRowStore.readAtSnapshot_eq, Versions.lastAtMost_eq_latestAt (hord.2 key)]
  · intro snapshotXid h' hr'
    refine (hr'.invariant (P := fun h' => h'.store.maxRowsCap = 0 ∧ ∀ key,
      h'.store.readAtSnapshot key snapshotXid = h.store.readAtSnapshot key snapshotXid)
      ⟨hord.1, fun _ => rfl⟩ ?_).2
    rintro h₁ h₂ a ⟨hcap, hsame⟩ hpast hs
    exact ⟨(effect_of_step hcap hs).1, fun key =>
      (readAtSnapshot_of_step hcap hpast hs key).trans (hsame key)⟩

instance (h : History) : DecidablePred (InOrder h) := fun a =>
  inferInstanceAs (Decidable (∀ w ∈ a.written, ∀ v ∈ (h.store.versions w.2).getLast?, v.xid ≤ w.1))

def row (value : String) : RowData := Finmap.singleton "v" value

theorem snapshotReads_twoWrites :
    ∃ h, Transition.ReachableIf step InOrder (new 256) h ∧
      h.store.versions "k" = [⟨1, false, row "a"⟩, ⟨2, false, row "b"⟩] ∧ h.SnapshotReads ∧
      ∀ snapshotXid h', Transition.ReachableIf step (WritesPast snapshotXid) h h' →
        ∀ key, h'.store.readAtSnapshot key snapshotXid =
          h.store.readAtSnapshot key snapshotXid := by
  obtain ⟨h, hr, hv⟩ := Transition.exists_of_runIf step InOrder (new 256)
    [.beginXid, .beginXid, .insert 1 "k" (row "a"), .insert 2 "k" (row "b")]
    (fun h => h.store.versions "k" = [⟨1, false, row "a"⟩, ⟨2, false, row "b"⟩]) (by decide)
  exact ⟨h, hr, hv, snapshotReads_of_inOrder hr⟩

/-- **A snapshot read returns an older version.** -/
theorem snapshot_reads_older_version :
    ∃ h, Transition.run step (new 256)
        [.beginXid, .beginXid, .insert 2 "k" (row "b"), .insert 1 "k" (row "a")] = some h ∧
      Versions.latestAt RowVersion.xid 2 (h.store.versions "k") = some ⟨2, false, row "b"⟩ ∧
      h.store.readAtSnapshot "k" 2 = some (row "a") ∧ ¬ h.SnapshotReads := by
  obtain ⟨h, hr, hlat, hread⟩ := Transition.exists_of_run step (new 256)
    [.beginXid, .beginXid, .insert 2 "k" (row "b"), .insert 1 "k" (row "a")]
    (fun h => Versions.latestAt RowVersion.xid 2 (h.store.versions "k") =
      some ⟨2, false, row "b"⟩ ∧ h.store.readAtSnapshot "k" 2 = some (row "a")) (by decide)
  refine ⟨h, hr, hlat, hread, fun hcon => ?_⟩
  have := hcon "k" 2
  rw [hread, hlat] at this
  exact absurd this (by decide)

/-! ### Committed reads -/

def Holding (h : History) (xid : Xid) : Prop := ∃ key, h.store.writeIntents key = some xid

def committedVersion (h : History) (key : String) (snapshotXid readerXid : Xid) :
    Option RowVersion :=
  Versions.lastAtMost RowVersion.xid (h.store.effectiveSnapshot key snapshotXid readerXid)
    (h.store.versions key)

/-- Within its snapshot, and released or the reader's own. -/
def lastReleased (h : History) (key : String) (snapshotXid readerXid : Xid) : Option RowVersion :=
  (h.store.versions key).reverse.find? fun v =>
    v.xid ≤ snapshotXid ∧ (v.xid = readerXid ∨ v.xid ∈ h.released)

/-- **A committed read returns the last version released.** -/
def NoDirtyReads (h : History) : Prop :=
  ∀ key snapshotXid readerXid,
    (∀ v ∈ h.committedVersion key snapshotXid readerXid, v.xid = readerXid ∨ ¬ h.Holding v.xid) ∧
    ∀ v ∈ h.lastReleased key snapshotXid readerXid,
      h.store.readCommitted key snapshotXid readerXid = v.value

/-- **A write is to a key the transaction holds**, whose intent was taken before newer versions. -/
def Disciplined (h : History) (a : StoreAction) : Prop :=
  (∀ w ∈ a.written, h.store.writeIntents w.2 = some w.1) ∧
  ∀ w ∈ a.intended, (∀ o ∈ h.store.writeIntents w.2, o = w.1) →
    w.1 ∉ h.released ∧ ∀ v ∈ h.store.versions w.2, v.xid ≤ w.1

/-- Each version is released, or of the holder of its key. -/
structure Guarded (h : History) : Prop where
  cap : h.store.maxRowsCap = 0
  covered : ∀ {k v}, v ∈ h.store.versions k →
    v.xid ∈ h.released ∨ h.store.writeIntents k = some v.xid
  newest : ∀ {k o v}, h.store.writeIntents k = some o → v ∈ h.store.versions k → v.xid ≤ o
  active : ∀ {k o}, h.store.writeIntents k = some o → 0 < o ∧ o ∉ h.released

theorem guarded_new (sz : ℕ) : Guarded (new sz) where
  cap := rfl
  covered hv := by simp [new, PagedRowStore.new, PagedRowStore.versions, PagedRowStore.rows] at hv
  newest ho := by simp [new, PagedRowStore.new] at ho
  active ho := by simp [new, PagedRowStore.new] at ho

theorem Guarded.intent (hg : Guarded h) (hcap : h'.store.maxRowsCap = 0) {xid : Xid} {key : String}
    (hpos : 0 < xid) (hfree : ∀ o ∈ h.store.writeIntents key, o = xid) (hrel : xid ∉ h.released)
    (hnew : ∀ v ∈ h.store.versions key, v.xid ≤ xid) (hv : h'.store.versions = h.store.versions)
    (hi : h'.store.writeIntents = Function.update h.store.writeIntents key (some xid))
    (hr : h'.released = h.released) : Guarded h' := by
  have hlk : ∀ {k o}, h'.store.writeIntents k = some o →
      (k = key ∧ o = xid) ∨ h.store.writeIntents k = some o := by
    intro k o ho
    rcases eq_or_ne k key with rfl | hk
    · rw [hi, update_self] at ho
      exact Or.inl ⟨rfl, (some.inj ho).symm⟩
    · rw [hi, update_of_ne hk] at ho
      exact Or.inr ho
  refine ⟨hcap, fun {k v} hm => ?_, fun {k o v} ho hm => ?_, fun {k o} ho => ?_⟩
  · rw [hv] at hm
    rw [hr, hi]
    refine (hg.covered hm).imp_right ?_
    intro hown
    rcases eq_or_ne k key with rfl | hk
    · rw [update_self, hfree _ hown]
    · rw [update_of_ne hk, hown]
  · rw [hv] at hm
    rcases hlk ho with ⟨rfl, rfl⟩ | ho
    · exact hnew v hm
    · exact hg.newest ho hm
  · rw [hr]
    rcases hlk ho with ⟨rfl, rfl⟩ | ho
    · exact ⟨hpos, hrel⟩
    · exact hg.active ho

theorem Guarded.release (hg : Guarded h) (hcap : h'.store.maxRowsCap = 0) {xid : Xid}
    (hv : h'.store.versions = h.store.versions)
    (hi : h'.store.writeIntents = fun k => (h.store.writeIntents k).filter (· ≠ xid))
    (hr : h'.released = xid :: h.released) : Guarded h' := by
  have hlk : ∀ {k o}, h'.store.writeIntents k = some o ↔
      h.store.writeIntents k = some o ∧ o ≠ xid := by
    intro k o
    rw [hi]
    simp [filter_eq_some_iff]
  refine ⟨hcap, fun {k v} hm => ?_, fun {k o v} ho hm => ?_, fun {k o} ho => ?_⟩
  · rw [hv] at hm
    rw [hr, hlk]
    rcases eq_or_ne v.xid xid with hx | hx
    · exact Or.inl (by simp [hx])
    · exact (hg.covered hm).imp (mem_cons_of_mem _) fun hown => ⟨hown, hx⟩
  · rw [hv] at hm
    exact hg.newest (hlk.mp ho).1 hm
  · obtain ⟨ho, hne⟩ := hlk.mp ho
    rw [hr]
    exact ⟨(hg.active ho).1, by simp [hne, (hg.active ho).2]⟩

theorem Guarded.step (hg : Guarded h) (hgood : Disciplined h a) (hs : h.step a = some h') :
    Guarded h' := by
  obtain ⟨hcap, heff⟩ := effect_of_step hg.cap hs
  cases heff with
  | quiet hv hi hr =>
    exact ⟨hcap, fun hm => by rw [hr, hi]; exact hg.covered (hv ▸ hm),
      fun ho hm => hg.newest (hi ▸ ho) (hv ▸ hm), fun ho => by rw [hr]; exact hg.active (hi ▸ ho)⟩
  | intent xid key hw hpos hfree hv hi hr =>
    obtain ⟨hrel, hnew⟩ := hgood.2 _ hw hfree
    exact hg.intent hcap hpos hfree hrel hnew hv hi hr
  | release xid hv hi hr => exact hg.release hcap hv hi hr
  | write v key hw hv hi hr =>
    -- the new version belongs to the holder of the key
    have hown : h.store.writeIntents key = some v.xid := hgood.1 _ hw
    have hmem : ∀ {k w}, w ∈ h'.store.versions k →
        w ∈ h.store.versions k ∨ (k = key ∧ w = v) := by
      intro k w hm
      rw [hv k] at hm
      split_ifs at hm with hk
      · exact (mem_append.mp hm).imp_right fun hm => ⟨hk, mem_singleton.mp hm⟩
      · exact Or.inl hm
    refine ⟨hcap, fun {k w} hm => ?_, fun {k o w} ho hm => ?_, fun {k o} ho => ?_⟩
    · rw [hr, hi]
      rcases hmem hm with hm | ⟨rfl, rfl⟩
      · exact hg.covered hm
      · exact Or.inr hown
    · rw [hi] at ho
      rcases hmem hm with hm | ⟨rfl, rfl⟩
      · exact hg.newest ho hm
      · rw [hown] at ho
        exact (some.inj ho).le
    · rw [hr]
      exact hg.active (hi ▸ ho)

theorem Guarded.le_effectiveSnapshot_iff (hg : Guarded h) {key : String} {v : RowVersion}
    (hv : v ∈ h.store.versions key) (x readerXid : Xid) :
    v.xid ≤ h.store.effectiveSnapshot key x readerXid ↔
      v.xid ≤ x ∧ (v.xid = readerXid ∨ v.xid ∈ h.released) := by
  rw [PagedRowStore.effectiveSnapshot]
  cases ho : h.store.writeIntents key with
  | none =>
    -- nobody holds the key: everything is released
    have hrel : v.xid ∈ h.released := (hg.covered hv).resolve_right (by simp [ho])
    exact ⟨fun hle => ⟨hle, Or.inr hrel⟩, fun hle => hle.1⟩
  | some o =>
    have hown : v.xid ∈ h.released ∨ v.xid = o := by
      refine (hg.covered hv).imp_right ?_
      intro hown
      rw [ho] at hown
      exact (some.inj hown).symm
    have hle := hg.newest ho hv
    obtain ⟨hpos, hact⟩ := hg.active ho
    dsimp only
    split_ifs with hne
    · rw [le_min_iff]
      refine and_congr_right fun _ => ⟨fun hlt => Or.inr ?_, fun hsee => ?_⟩
      · exact hown.resolve_right (Nat.lt_of_le_sub_one hpos hlt).ne
      · have hvo : v.xid ≠ o := by
          rintro rfl
          rcases hsee with hrea | hrel
          · exact hne hrea
          · exact hact hrel
        exact Nat.le_sub_one_of_lt (lt_of_le_of_ne hle hvo)
    · rw [not_not] at hne
      subst hne
      exact ⟨fun hle => ⟨hle, hown.symm⟩, fun hle => hle.1⟩

/-- **There are no dirty reads in a disciplined history.** -/
theorem noDirtyReads_of_disciplined {pageSize : ℕ}
    (hr : Transition.ReachableIf step Disciplined (new pageSize) h) : h.NoDirtyReads := by
  have hg : Guarded h :=
    hr.invariant (guarded_new pageSize) fun hs hgood hstep => hs.step hgood hstep
  intro key snapshotXid readerXid
  have heq : h.committedVersion key snapshotXid readerXid =
      h.lastReleased key snapshotXid readerXid := find?_congr fun v hv => decide_eq_decide.mpr
    (hg.le_effectiveSnapshot_iff (mem_reverse.mp hv) snapshotXid readerXid)
  constructor
  · intro v hv
    rw [heq] at hv
    have hsee : v.xid ≤ snapshotXid ∧ (v.xid = readerXid ∨ v.xid ∈ h.released) := by
      simpa using find?_some hv
    refine hsee.2.imp_right ?_
    rintro hrel ⟨k, hk⟩
    exact (hg.active hk).2 hrel
  · intro v hv
    rw [PagedRowStore.readCommitted, PagedRowStore.readAtSnapshot_eq]
    rw [committedVersion] at heq
    rw [heq, show h.lastReleased key snapshotXid readerXid = some v from hv, bind_some]

instance (h : History) : DecidablePred (Disciplined h) := fun a =>
  inferInstanceAs (Decidable ((∀ w ∈ a.written, h.store.writeIntents w.2 = some w.1) ∧
    ∀ w ∈ a.intended, (∀ o ∈ h.store.writeIntents w.2, o = w.1) →
      w.1 ∉ h.released ∧ ∀ v ∈ h.store.versions w.2, v.xid ≤ w.1))

theorem noDirtyReads_twoTransactions :
    ∃ h, Transition.ReachableIf step Disciplined (new 256) h ∧
      h.lastReleased "k" 2 0 = some ⟨1, false, row "a"⟩ ∧
      h.store.readCommitted "k" 2 0 = some (row "a") ∧ h.NoDirtyReads := by
  obtain ⟨h, hr, hlast, hread⟩ := Transition.exists_of_runIf step Disciplined (new 256)
    [.beginXid, .beginWriteIntent 1 "k", .insert 1 "k" (row "a"), .releaseWriteIntents 1,
      .beginXid, .beginWriteIntent 2 "k", .insert 2 "k" (row "b")]
    (fun h => h.lastReleased "k" 2 0 = some ⟨1, false, row "a"⟩ ∧
      h.store.readCommitted "k" 2 0 = some (row "a")) (by decide)
  exact ⟨h, hr, hlast, hread, noDirtyReads_of_disciplined hr⟩

/-- **Both halves fail**: a write without an intent, and an intent taken late. -/
theorem dirty_read_and_lost_version :
    (∃ h, Transition.run step (new 256)
        [.beginXid, .beginXid, .beginWriteIntent 1 "j", .beginWriteIntent 2 "k",
          .insert 2 "k" (row "b"), .beginWriteIntent 1 "k", .insert 1 "k" (row "a")] = some h ∧
      h.store.writeIntents "j" = some 1 ∧
      h.committedVersion "k" 2 0 = some ⟨1, false, row "a"⟩ ∧
      h.store.readCommitted "k" 2 0 = some (row "a") ∧ ¬ h.NoDirtyReads) ∧
    ∃ h, Transition.run step (new 256)
        [.beginXid, .beginXid, .beginWriteIntent 2 "k", .insert 2 "k" (row "b"),
          .releaseWriteIntents 2, .beginWriteIntent 1 "k"] = some h ∧
      h.lastReleased "k" 2 0 = some ⟨2, false, row "b"⟩ ∧
      h.store.readCommitted "k" 2 0 = none ∧ ¬ h.NoDirtyReads := by
  constructor
  · obtain ⟨h, hr, hj, hv, hread⟩ := Transition.exists_of_run step (new 256)
      [.beginXid, .beginXid, .beginWriteIntent 1 "j", .beginWriteIntent 2 "k",
        .insert 2 "k" (row "b"), .beginWriteIntent 1 "k", .insert 1 "k" (row "a")]
      (fun h => h.store.writeIntents "j" = some 1 ∧
        h.committedVersion "k" 2 0 = some ⟨1, false, row "a"⟩ ∧
        h.store.readCommitted "k" 2 0 = some (row "a")) (by decide)
    refine ⟨h, hr, hj, hv, hread, fun hcon => ?_⟩
    rcases (hcon "k" 2 0).1 _ hv with h0 | hhold
    · contradiction
    · exact hhold ⟨"j", hj⟩
  · obtain ⟨h, hr, hlast, hread⟩ := Transition.exists_of_run step (new 256)
      [.beginXid, .beginXid, .beginWriteIntent 2 "k", .insert 2 "k" (row "b"),
        .releaseWriteIntents 2, .beginWriteIntent 1 "k"]
      (fun h => h.lastReleased "k" 2 0 = some ⟨2, false, row "b"⟩ ∧
        h.store.readCommitted "k" 2 0 = none) (by decide)
    refine ⟨h, hr, hlast, hread, fun hcon => ?_⟩
    have := (hcon "k" 2 0).2 _ hlast
    rw [hread] at this
    exact absurd this (by decide)

end History

end VngDatabase.Store
