import VngDatabase.Cache.Partition

/-!
# What is left of a cache

What an entry is to those who ask is its value, up to its last moment (`CacheEntry.remains`,
`visible_eq_iff`). What a snapshot stores (`CacheEntry.stored`) is nearly the same.
-/

namespace VngDatabase.Cache

open CacheEntry Option OrderedMap

/-! ### What remains of an entry -/

variable (t : Ms) (e : CacheEntry)

def seen (nowMs : Ms) (r : Option (Json × ℕ)) : Option Json :=
  r.bind fun r => if r.2 < nowMs.val then none else some r.1

theorem exists_of_seen {t : Ms} {r r' : Option (Json × ℕ)} {value : Json} {last : ℕ}
    (hr : r = some (value, last)) (hfst : t.val ≤ last) (hlast : last < 2 ^ 64)
    (h : ∀ nowMs, t ≤ nowMs → seen nowMs r = seen nowMs r') :
    ∃ last', r' = some (value, last') ∧ last ≤ last' := by
  have hseen := h ⟨last, hlast⟩ hfst
  rw [hr, seen, bind_some, if_neg (lt_irrefl last)] at hseen
  obtain ⟨⟨value', last'⟩, rfl, hval⟩ := bind_eq_some_iff.mp hseen.symm
  split_ifs at hval with hlt
  obtain rfl : value' = value := some.inj hval
  exact ⟨last', rfl, not_lt.mp hlt⟩

namespace CacheEntry

variable (nowMs : Ms)

def visible (e : CacheEntry) : Option Json :=
  if e.isExpired nowMs then none else some e.value

def lastMs : ℕ :=
  match e.ttlMs with
  | some ttl => min (e.createdAtMs.val + ttl.val) (2 ^ 64 - 1)
  | none => 2 ^ 64 - 1

def remains (e : CacheEntry) : Option (Json × ℕ) :=
  if e.isExpired nowMs then none else some (e.value, e.lastMs)

def stored (e : CacheEntry) : Option (Json × ℕ) :=
  match e.expiresAt with
  | some expires => if expires ≤ nowMs then none else some (e.value, expires.val)
  | none => some (e.value, 2 ^ 64 - 1)

theorem isExpired_iff (now : Ms) :
    e.isExpired now = true ↔ e.lastMs < now.val := by
  have hnow := now.isLt
  rw [isExpired, lastMs]
  cases e.ttlMs with
  | none =>
    dsimp only
    exact iff_of_false Bool.false_ne_true (by omega)
  | some ttl =>
    dsimp only
    rw [decide_eq_true_eq]
    omega

theorem visible_eq {t now : Ms} (h : t ≤ now) (e : CacheEntry) :
    e.visible now = seen now (e.remains t) := by
  have hle : t.val ≤ now.val := h
  rw [visible, remains, seen]
  by_cases ht : e.isExpired t = true
  · have hlast := (e.isExpired_iff t).mp ht
    rw [if_pos ht, if_pos ((e.isExpired_iff now).mpr (by omega)), bind_none]
  · rw [if_neg ht, bind_some]
    exact if_congr (e.isExpired_iff now) rfl rfl

theorem le_of_remains {t : Ms} {e : CacheEntry} {r : Json × ℕ} (h : e.remains t = some r) :
    t.val ≤ r.2 ∧ r.2 < 2 ^ 64 := by
  rw [remains] at h
  split_ifs at h with hexp
  obtain rfl := some.inj h
  rw [isExpired_iff, not_lt] at hexp
  refine ⟨hexp, ?_⟩
  dsimp only
  rw [lastMs]
  split <;> omega

theorem remains_reload : (e.reload t).bind (remains t) = e.stored t := by
  rw [reload, stored]
  cases e.expiresAt with
  | none => rfl
  | some expires =>
    dsimp only
    split_ifs with hexp
    · rfl
    · have hlt : t.val < expires.val := not_le.mp hexp
      have hlast := expires.isLt
      have hsub : (expires - t).val = expires.val - t.val := Fin.sub_val_of_le (le_of_lt hlt)
      have hres : lastMs ⟨e.value, t, t, some (expires - t)⟩ = expires.val := by
        change min (t.val + (expires - t).val) (2 ^ 64 - 1) = expires.val
        rw [hsub]
        omega
      rw [bind_some, remains, if_neg (by rw [isExpired_iff, hres]; omega), hres]

theorem isSome_reload : (e.reload t).isSome = (e.stored t).isSome := by
  rw [reload, stored]
  cases e.expiresAt with
  | none => rfl
  | some expires =>
    dsimp only
    split_ifs <;> rfl

end CacheEntry

theorem visible_eq_iff {o o' : Option CacheEntry} :
    (∀ nowMs, t ≤ nowMs → o.bind (visible nowMs) = o'.bind (visible nowMs)) ↔
      o.bind (remains t) = o'.bind (remains t) := by
  have hvis : ∀ {nowMs : Ms}, t ≤ nowMs → ∀ o : Option CacheEntry,
      o.bind (visible nowMs) = seen nowMs (o.bind (remains t)) := by
    intro nowMs hle o
    rw [seen, bind_assoc]
    exact congrArg o.bind (funext fun e => visible_eq hle e)
  have hbou : ∀ {o : Option CacheEntry} {r : Json × ℕ}, o.bind (remains t) = some r →
      t.val ≤ r.2 ∧ r.2 < 2 ^ 64 := by
    intro o r hr
    obtain ⟨e, -, he⟩ := bind_eq_some_iff.mp hr
    exact le_of_remains he
  constructor
  · intro h
    have hseen : ∀ nowMs, t ≤ nowMs → seen nowMs (o.bind (remains t)) =
        seen nowMs (o'.bind (remains t)) := by
      intro nowMs hle
      rw [← hvis hle, ← hvis hle, h nowMs hle]
    have hseen' := fun nowMs hle => (hseen nowMs hle).symm
    cases hr' : o'.bind (remains t) with
    | none =>
      cases hr : o.bind (remains t) with
      | none => rfl
      | some r =>
        obtain ⟨_, hsome, -⟩ := exists_of_seen hr (hbou hr).1 (hbou hr).2 hseen
        rw [hr'] at hsome
        cases hsome
    | some r' =>
      obtain ⟨value, last'⟩ := r'
      obtain ⟨last, hr, hle⟩ := exists_of_seen hr' (hbou hr').1 (hbou hr').2 hseen'
      obtain ⟨_, hsome, hle'⟩ := exists_of_seen hr (hbou hr).1 (hbou hr).2 hseen
      rw [hr'] at hsome
      cases hsome
      rw [hr, le_antisymm hle' hle]
  · intro h nowMs hle
    rw [hvis hle, hvis hle, h]

variable {policy : CacheResiliencePolicy}

theorem CachePartition.get_snd (p : CachePartition policy) (key : String) (now : Ms) :
    (p.get key now).2 = (p.entries.get? key).bind (visible now) := by
  rw [get]
  split
  · next hnone => rw [hnone, Option.bind_none]
  · next e hsome =>
    refine Eq.trans ?_ (congrArg (Option.bind · (visible now)) hsome).symm
    rw [Option.bind_some, visible]
    split_ifs <;> rfl

namespace DistributedCacheManager

variable (m : DistributedCacheManager policy)

def entry (pid key : String) : Option CacheEntry :=
  (m.entriesOf pid).bind fun entries => entries.get? key

def answer (pid key : String) (nowMs : Ms) : Except CacheError (Option Json) :=
  if (m.entriesOf pid).isSome then .ok ((m.entry pid key).bind (visible nowMs))
  else .error (.partitionNotFound pid)

theorem get_snd (pid key : String) (nowMs : Ms) :
    (m.get pid key nowMs).2 = m.answer pid key nowMs := by
  rw [get, onPartition, answer, entry, entriesOf]
  cases m.partitions.get? pid with
  | none => rfl
  | some p =>
    rw [map_some, isSome_some, if_pos rfl, bind_some]
    exact congrArg Except.ok (p.get_snd key nowMs)

theorem answer_eq_iff {m m' : DistributedCacheManager policy} :
    (∀ pid key nowMs, t ≤ nowMs → m.answer pid key nowMs = m'.answer pid key nowMs) ↔
      (∀ pid, (m.entriesOf pid).isSome ↔ (m'.entriesOf pid).isSome) ∧
        ∀ pid key, (m.entry pid key).bind (remains t) =
          (m'.entry pid key).bind (remains t) := by
  constructor
  · intro h
    have hsome : ∀ pid, (m.entriesOf pid).isSome = (m'.entriesOf pid).isSome := by
      intro pid
      have hans := h pid "" t le_rfl
      rw [answer, answer] at hans
      cases hp : (m.entriesOf pid).isSome <;> cases hp' : (m'.entriesOf pid).isSome <;>
        rw [hp, hp'] at hans <;> first | rfl | cases hans
    refine ⟨fun pid => Bool.eq_iff_iff.mp (hsome pid), fun pid key =>
      (visible_eq_iff t).mp fun nowMs hle => ?_⟩
    have hans := h pid key nowMs hle
    rw [answer, answer, ← hsome pid] at hans
    cases hp : (m.entriesOf pid).isSome with
    | true =>
      rw [hp, if_pos rfl, if_pos rfl] at hans
      exact Except.ok.inj hans
    | false =>
      have hp' := hsome pid
      rw [hp] at hp'
      rw [entry, entry, isSome_eq_false_iff.mp hp |> isNone_iff_eq_none.mp,
        isSome_eq_false_iff.mp hp'.symm |> isNone_iff_eq_none.mp]
  · rintro ⟨hsome, hent⟩ pid key nowMs hle
    rw [answer, answer, Bool.eq_iff_iff.mpr (hsome pid),
      (visible_eq_iff t).mpr (hent pid key) nowMs hle]

def HasRoom : Prop :=
  ∀ e ∈ m.partitions.entries, e.2.entries.entries.length ≤ policy.maxEntriesPerPartition

def restored (saved : DistributedCacheManager policy) : DistributedCacheManager policy :=
  new.restoreFromJson saved.snapshotToJson t

variable {saved : DistributedCacheManager policy}

theorem entry_restored (hroom : saved.HasRoom) (t : Ms) (pid key : String) :
    (saved.restored t).entry pid key = (saved.entry pid key).bind (reload t) := by
  rw [entry, restored, entriesOf_restoreFromJson saved t hroom, entry, entriesOf]
  cases saved.partitions.get? pid with
  | none => rfl
  | some p =>
    rw [bind_some, map_some, bind_some, CachePartition.reload]
    have hmem : ∀ e', (key, e') ∈ reloadEntries t p.entries.entries ↔
        ∃ e, p.entries.get? key = some e ∧ e.reload t = some e' := by
      intro e'
      rw [reloadEntries, List.mem_filterMap]
      constructor
      · rintro ⟨⟨k, e⟩, he, hmap⟩
        obtain ⟨_, hrel, heq⟩ := map_eq_some_iff.mp hmap
        cases heq
        exact ⟨e, get?_eq_some_iff.mpr he, hrel⟩
      · rintro ⟨e, he, hrel⟩
        refine ⟨(key, e), get?_eq_some_iff.mp he, ?_⟩
        rw [hrel, map_some]
    refine ext fun e' => ?_
    rw [bind_eq_some_iff (x := p.entries.get? key), ← hmem]
    split_ifs with hnil
    · rw [hnil, bind_none]
      exact iff_of_false (by simp) List.not_mem_nil
    · rw [bind_some, get?_eq_some_iff, entries_putAll (sorted_reloadEntries p.entries.sorted)]

theorem isSome_entriesOf_restored (hroom : saved.HasRoom) (t : Ms) (pid : String) :
    ((saved.restored t).entriesOf pid).isSome = true ↔
      ∃ key, ((saved.entry pid key).bind (stored t)).isSome := by
  have hsto : ∀ o : Option CacheEntry,
      (o.bind (stored t)).isSome = (o.bind (reload t)).isSome := by
    rintro (_ | e)
    · rfl
    · exact (e.isSome_reload t).symm
  simp only [hsto, ← entry_restored hroom]
  rw [restored, entriesOf_restoreFromJson saved t hroom]
  simp only [entry, entriesOf_restoreFromJson saved t hroom]
  cases saved.partitions.get? pid with
  | none => simp
  | some p =>
    rw [bind_some, CachePartition.reload]
    split_ifs with hnil
    · simp
    · obtain ⟨e, he⟩ := List.exists_mem_of_ne_nil _ hnil
      refine iff_of_true rfl ⟨e.1, ?_⟩
      rw [bind_some, isSome_iff_exists]
      refine ⟨e.2, get?_eq_some_iff.mpr ?_⟩
      rwa [entries_putAll (sorted_reloadEntries p.entries.sorted)]

end DistributedCacheManager

structure Survives (saved cache : DistributedCacheManager policy) (t : Ms) : Prop where
  partitions : ∀ pid, (cache.entriesOf pid).isSome ↔
    ∃ key, ((saved.entry pid key).bind (stored t)).isSome
  entries : ∀ pid key, (cache.entry pid key).bind (remains t) =
    (saved.entry pid key).bind (stored t)

theorem answer_restored_iff {saved : DistributedCacheManager policy} (hroom : saved.HasRoom)
    (cache : DistributedCacheManager policy) (t : Ms) :
    (∀ pid key nowMs, t ≤ nowMs →
        (saved.restored t).answer pid key nowMs = cache.answer pid key nowMs) ↔
      Survives saved cache t := by
  rw [DistributedCacheManager.answer_eq_iff]
  have hent : ∀ pid key, ((saved.restored t).entry pid key).bind (remains t) =
      (saved.entry pid key).bind (stored t) := by
    intro pid key
    rw [DistributedCacheManager.entry_restored hroom, bind_assoc]
    exact congrArg _ (funext (remains_reload t))
  simp only [hent, DistributedCacheManager.isSome_entriesOf_restored hroom]
  constructor
  · rintro ⟨hpar, hents⟩
    exact ⟨fun pid => (hpar pid).symm, fun pid key => (hents pid key).symm⟩
  · rintro ⟨hpar, hents⟩
    exact ⟨fun pid => (hpar pid).symm, fun pid key => (hents pid key).symm⟩

end VngDatabase.Cache
