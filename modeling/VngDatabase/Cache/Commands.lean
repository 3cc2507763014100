import VngDatabase.Cache.Restart
import VngDatabase.Text
import VngDatabase.Transition

/-!
# Commands to the cache

`cache_redis_command` of `services/voltnuerongridd/src/handlers/misc.rs` answers commands named like
those of a well-known cache.
-/

namespace VngDatabase.Cache

open Text Transition DistributedCacheManager Option

/-- **The library that writes values to texts and reads them.** -/
class JsonText where
  toStringPretty : Json → String
  fromStr : String → Option Json

/-! ### Requests and responses -/

inductive CacheCommand
  | get
  | set
  | del
  | flush
  | expire
  | mset
  | getset
  | lpush
  | rpush
  | hset
  | hdel
  | sadd
  deriving DecidableEq

def CacheCommand.name : CacheCommand → String
  | .get => "GET"
  | .set => "SET"
  | .del => "DEL"
  | .flush => "FLUSH"
  | .expire => "EXPIRE"
  | .mset => "MSET"
  | .getset => "GETSET"
  | .lpush => "LPUSH"
  | .rpush => "RPUSH"
  | .hset => "HSET"
  | .hdel => "HDEL"
  | .sadd => "SADD"

structure RedisCacheCommandRequest where
  cmd : String
  key : Option String := none
  value : Option Json := none
  partitionId : Option String := none
  ttlMs : Option Ms := none
  expireMs : Option Ms := none
  field : Option String := none

namespace RedisCacheCommandRequest

variable (req : RedisCacheCommandRequest)

def cmdName : String :=
  toAsciiUppercase (String.ofList (trim req.cmd.toList))

def command : Option CacheCommand :=
  [CacheCommand.get, .set, .del, .flush, .expire, .mset, .getset, .lpush, .rpush, .hset, .hdel,
    .sadd].find? fun c => c.name = req.cmdName

def partition : String := req.partitionId.getD "default"

def keyName : String := req.key.getD ""

def newValue : Json := req.value.getD .null

def fieldName : String := req.field.getD ""

end RedisCacheCommandRequest

structure RedisCacheCommandResponse where
  status : String
  cmd : String
  value : Option Json := none
  exists_ : Option Bool := none
  removed : Option Bool := none
  flushedCount : Option ℕ := none
  error : Option String := none

def jsonOfNat (n : ℕ) : Json := .number (.posInt (Fin.ofNat (2 ^ 64) n))

def itemsOf : Option Json → List Json
  | some (.array items) => items
  | _ => []

def membersOf : Option Json → List (String × Json)
  | some (.object members) => members
  | _ => []

structure CacheNode (policy : CacheResiliencePolicy) where
  cache : DistributedCacheManager policy
  file : Option String

section

variable {policy : CacheResiliencePolicy} [JsonText]

namespace CacheNode

variable (n : CacheNode policy)

def fresh : CacheNode policy := ⟨.new, none⟩

def persistCacheSnapshot : CacheNode policy :=
  { n with file := some (JsonText.toStringPretty n.cache.snapshotToJson) }

def loadCacheSnapshot (nowMs : Ms) : CacheNode policy :=
  match n.file.bind JsonText.fromStr with
  | some json => ⟨new.restoreFromJson json nowMs, n.file⟩
  | none => ⟨.new, n.file⟩

def update (nowMs : Ms) (req : RedisCacheCommandRequest)
    (f : Option Json → Json) : CacheNode policy × Option Json :=
  let looked := n.cache.get req.partition req.keyName nowMs
  let old := looked.2.toOption.join
  ({ n with cache := looked.1.set req.partition req.keyName (f old) req.ttlMs nowMs }, old)

def cacheRedisCommand (command : CacheCommand) (nowMs : Ms)
    (req : RedisCacheCommandRequest) : CacheNode policy × RedisCacheCommandResponse :=
  let ok : RedisCacheCommandResponse := { status := "ok", cmd := command.name }
  let failed (e : CacheError) : RedisCacheCommandResponse :=
    { status := "error", cmd := command.name, error := some e.toString }
  match command with
  | .get =>
    match n.cache.get req.partition req.keyName nowMs with
    | (cache, .ok value) => ({ n with cache }, { ok with value })
    | (cache, .error e) => ({ n with cache }, failed e)
  | .set =>
    let cache := n.cache.set req.partition req.keyName req.newValue req.ttlMs nowMs
    (persistCacheSnapshot { n with cache }, ok)
  | .del =>
    match n.cache.invalidate req.partition req.keyName with
    | (cache, .ok removed) =>
      (persistCacheSnapshot { n with cache }, { ok with removed := some removed })
    | (cache, .error e) => ({ n with cache }, { failed e with removed := some false })
  | .flush =>
    match n.cache.invalidatePartition req.partition with
    | (cache, .ok flushed) => ({ n with cache }, { ok with flushedCount := some flushed })
    | (cache, .error e) => ({ n with cache }, { failed e with flushedCount := some 0 })
  | .expire =>
    let ttl := (req.expireMs.or req.ttlMs).getD 60000
    match n.cache.expireKey req.partition req.keyName ttl nowMs with
    | (cache, .ok updated) =>
      ({ n with cache }, { ok with value := some (.bool updated), exists_ := some updated })
    | (cache, .error e) => ({ n with cache }, failed e)
  | .mset =>
    match req.value with
    | some (.object members) =>
      let cache := members.foldl (fun (cache : DistributedCacheManager policy) member =>
        cache.set req.partition member.1 member.2 req.ttlMs nowMs) n.cache
      ({ n with cache }, { ok with value := some (jsonOfNat members.length) })
    | _ =>
      (n, { status := "error"
            cmd := command.name
            error := some "MSET requires value to be a JSON object" })
  | .getset =>
    let updated := n.update nowMs req fun _ => req.newValue
    (updated.1, { ok with value := updated.2 })
  | .lpush =>
    let updated := n.update nowMs req fun old => .array (req.newValue :: itemsOf old)
    (updated.1, { ok with value := some (jsonOfNat ((itemsOf updated.2).length + 1)) })
  | .rpush =>
    let updated := n.update nowMs req fun old => .array (itemsOf old ++ [req.newValue])
    (updated.1, { ok with value := some (jsonOfNat ((itemsOf updated.2).length + 1)) })
  | .hset =>
    let updated := n.update nowMs req fun old =>
      .object (Json.insertMember (membersOf old) req.fieldName req.newValue)
    (updated.1, { ok with value := some (jsonOfNat 1) })
  | .hdel =>
    let looked := n.cache.get req.partition req.keyName nowMs
    match looked.2.toOption.join with
    | some (.object members) =>
      let removed := members.any fun member => member.1 = req.fieldName
      let cache := looked.1.set req.partition req.keyName
        (.object (Json.removeMember members req.fieldName)) req.ttlMs nowMs
      ({ n with cache },
        { ok with value := some (jsonOfNat removed.toNat), removed := some removed })
    | _ =>
      ({ n with cache := looked.1 },
        { ok with value := some (jsonOfNat 0), removed := some false })
  | .sadd =>
    let isMember (old : Option Json) : Bool := (itemsOf old).any fun item => item.beq req.newValue
    let updated := n.update nowMs req fun old =>
      .array (if isMember old then itemsOf old else itemsOf old ++ [req.newValue])
    (updated.1, { ok with value := some (jsonOfNat (!isMember updated.2).toNat) })

/-! ### Histories -/

end CacheNode

structure CacheCall where
  nowMs : Ms
  req : RedisCacheCommandRequest

def CacheCall.persists (call : CacheCall) : Bool :=
  call.req.command = some .set || call.req.command = some .del

def savedCalls (calls : List CacheCall) : List CacheCall :=
  calls.rdropWhile fun call => !call.persists

namespace CacheNode

variable {calls : List CacheCall}

def step (n : CacheNode policy) (call : CacheCall) : Option (CacheNode policy) :=
  call.req.command.bind fun command =>
    if (n.cacheRedisCommand command call.nowMs call.req).2.status = "ok" then
      some (n.cacheRedisCommand command call.nowMs call.req).1
    else none

theorem file_cacheRedisCommand (n : CacheNode policy) (c : CacheCommand) (now : Ms)
    (req : RedisCacheCommandRequest) (h : (n.cacheRedisCommand c now req).2.status = "ok") :
    (n.cacheRedisCommand c now req).1.file =
      if c = .set ∨ c = .del then
        some (JsonText.toStringPretty (n.cacheRedisCommand c now req).1.cache.snapshotToJson)
      else n.file := by
  cases c with
  | set => rfl
  | del =>
    rw [if_pos (Or.inr rfl)]
    rw [cacheRedisCommand] at h ⊢
    dsimp only at h ⊢
    split at h
    · rfl
    · exact absurd (show "error" = "ok" from h) (by decide)
  | get | flush | expire | mset | hdel =>
    rw [if_neg (by decide), cacheRedisCommand]
    dsimp only
    split <;> rfl
  | getset | lpush | rpush | hset | sadd => rfl

theorem file_step {n n' : CacheNode policy} {call : CacheCall} (h : n.step call = some n') :
    n'.file =
      if call.persists then some (JsonText.toStringPretty n'.cache.snapshotToJson) else n.file := by
  obtain ⟨command, hcom, hstep⟩ := bind_eq_some_iff.mp h
  split_ifs at hstep with hok
  obtain rfl := some.inj hstep
  rw [n.file_cacheRedisCommand command call.nowMs call.req hok, CacheCall.persists, hcom]
  simp only [some.injEq, Bool.or_eq_true, decide_eq_true_eq]

theorem file_run {n : CacheNode policy} (h : run step fresh calls = some n) :
    ∃ s : CacheNode policy, run step fresh (savedCalls calls) = some s ∧
      (n.file = none ∧ s = fresh ∨
        n.file = some (JsonText.toStringPretty s.cache.snapshotToJson)) := by
  induction calls using List.reverseRecOn generalizing n with
  | nil =>
    obtain rfl : fresh = n := some.inj h
    exact ⟨fresh, rfl, Or.inl ⟨rfl, rfl⟩⟩
  | append_singleton calls call ih =>
    have hrun := h
    rw [run_concat] at h
    obtain ⟨n₁, hn₁, hstep⟩ := bind_eq_some_iff.mp h
    have hfile := file_step hstep
    rw [savedCalls, List.rdropWhile_concat]
    cases hper : call.persists with
    | true =>
      rw [hper, if_pos rfl] at hfile
      exact ⟨n, hrun, Or.inr hfile⟩
    | false =>
      rw [hper, if_neg Bool.false_ne_true] at hfile
      rw [hfile]
      exact ih hn₁

def ReadsBack (s : CacheNode policy) : Prop :=
  JsonText.fromStr (JsonText.toStringPretty s.cache.snapshotToJson) = some s.cache.snapshotToJson

theorem cache_loadCacheSnapshot {n s : CacheNode policy} (h : run step fresh calls = some n)
    (hs : run step fresh (savedCalls calls) = some s) (hread : s.ReadsBack) (t : Ms) :
    (n.loadCacheSnapshot t).cache = s.cache.restored t := by
  obtain ⟨s', hs', hfile⟩ := file_run h
  obtain rfl : s' = s := some.inj (hs'.symm.trans hs)
  rw [loadCacheSnapshot]
  rcases hfile with ⟨hnone, rfl⟩ | hsome
  · rw [hnone]
    rfl
  · rw [hsome, bind_some, hread]
    rfl

def getResponse : Except CacheError (Option Json) → RedisCacheCommandResponse
  | .ok value => { status := "ok", cmd := "GET", value }
  | .error e => { status := "error", cmd := "GET", error := some e.toString }

theorem response_get (n : CacheNode policy) (now : Ms) (req : RedisCacheCommandRequest) :
    (n.cacheRedisCommand .get now req).2 =
      getResponse (n.cache.answer req.partition req.keyName now) := by
  rw [← get_snd, cacheRedisCommand]
  dsimp only
  rcases n.cache.get req.partition req.keyName now with ⟨cache, e | value⟩ <;> rfl

theorem response_get_eq_iff {n n' : CacheNode policy} {nowMs : Ms}
    {req : RedisCacheCommandRequest} :
    (n.cacheRedisCommand .get nowMs req).2 = (n'.cacheRedisCommand .get nowMs req).2 ↔
      n.cache.answer req.partition req.keyName nowMs =
        n'.cache.answer req.partition req.keyName nowMs := by
  rw [response_get, response_get, answer, answer]
  cases (n.cache.entriesOf req.partition).isSome <;>
    cases (n'.cache.entriesOf req.partition).isSome <;> simp [getResponse]

/-- **The cache survives a restart iff** what was stored last is what remains of it. -/
theorem survives_restart_iff {n s : CacheNode policy}
    (h : run step fresh calls = some n) (hs : run step fresh (savedCalls calls) = some s)
    (hroom : s.cache.HasRoom) (hread : s.ReadsBack) (t : Ms) :
    (∀ nowMs, t ≤ nowMs → ∀ req, ((n.loadCacheSnapshot t).cacheRedisCommand .get nowMs req).2 =
          (n.cacheRedisCommand .get nowMs req).2) ↔
      Survives s.cache n.cache t := by
  rw [← answer_restored_iff hroom, ← cache_loadCacheSnapshot h hs hread]
  simp only [response_get_eq_iff]
  constructor
  · intro hans pid key nowMs hle
    exact hans nowMs hle { cmd := "GET", key := some key, partitionId := some pid }
  · intro hans nowMs hle req
    exact hans req.partition req.keyName nowMs hle

end CacheNode

end

/-! ### A value that is lost -/

namespace CacheNode

def defaultPolicy : CacheResiliencePolicy := ⟨some 300000, 10000⟩

def setColour : CacheCall :=
  ⟨1000, { cmd := "SET", key := some "colour", value := some (.string "red") }⟩

def msetColour : CacheCall :=
  ⟨1000, { cmd := "MSET", value := some (.object [("colour", .string "red")]) }⟩

def getColour : RedisCacheCommandRequest := { cmd := "GET", key := some "colour" }

def colour : CacheEntry := ⟨.string "red", 1000, 1000, some 300000⟩

def colourCache : DistributedCacheManager defaultPolicy :=
  new.set "default" "colour" (.string "red") none 1000

theorem entriesOf_colourCache (pid : String) : colourCache.entriesOf pid =
    if pid = "default" then some (OrderedMap.put ∅ "colour" colour) else none := by
  have hroom : (((new : DistributedCacheManager defaultPolicy).entriesOf
      "default").getD ∅).entries.length < defaultPolicy.maxEntriesPerPartition := by decide
  rw [colourCache, entriesOf_set hroom]
  rfl

theorem entry_colourCache (pid key : String) :
    colourCache.entry pid key = if pid = "default" ∧ key = "colour" then some colour else none := by
  rw [entry, entriesOf_colourCache]
  by_cases hpid : pid = "default"
  · rw [if_pos hpid, bind_some, OrderedMap.get?_put]
    simp only [hpid, true_and]
    rfl
  · rw [if_neg hpid, if_neg fun h => hpid h.1, bind_none]

theorem survives_colourCache : Survives colourCache colourCache 2000 := by
  have hsto : CacheEntry.stored 2000 colour = some (.string "red", 301000) := rfl
  have hrem : CacheEntry.remains 2000 colour = some (.string "red", 301000) := rfl
  refine ⟨fun pid => ?_, fun pid key => ?_⟩
  · simp only [entry_colourCache, entriesOf_colourCache]
    by_cases hpid : pid = "default"
    · rw [if_pos hpid]
      refine iff_of_true rfl ⟨"colour", ?_⟩
      rw [if_pos ⟨hpid, rfl⟩, bind_some, hsto, isSome_some]
    · rw [if_neg hpid]
      refine iff_of_false Bool.false_ne_true fun ⟨key, hsome⟩ => ?_
      rw [if_neg fun h => hpid h.1] at hsome
      exact Bool.false_ne_true hsome
  · rw [entry_colourCache]
    split_ifs
    · rw [bind_some, bind_some, hsto, hrem]
    · rfl

@[reducible] def colourText : JsonText := ⟨fun _ => "", fun _ => some colourCache.snapshotToJson⟩

theorem colour_kept : ∃ (_ : JsonText) (n : CacheNode defaultPolicy),
    run step fresh [setColour] = some n ∧ ∀ nowMs, 2000 ≤ nowMs → ∀ req,
      ((n.loadCacheSnapshot 2000).cacheRedisCommand .get nowMs req).2 =
        (n.cacheRedisCommand .get nowMs req).2 := by
  let _ := colourText
  have hrun : run step fresh [setColour] =
    some (⟨colourCache, some ""⟩ : CacheNode defaultPolicy) := rfl
  have hroom : colourCache.HasRoom := by
    rw [DistributedCacheManager.HasRoom]
    decide
  exact ⟨colourText, _, hrun,
    (survives_restart_iff hrun hrun hroom rfl 2000).mpr survives_colourCache⟩

/-- **A colour that was set by `MSET` is gone.** -/
theorem colour_lost : Nonempty JsonText ∧ ∀ _ : JsonText, ∃ n : CacheNode defaultPolicy,
    run step fresh [msetColour] = some n ∧
      (n.cacheRedisCommand .get 2000 getColour).2.value = some (.string "red") ∧
      ((n.loadCacheSnapshot 2000).cacheRedisCommand .get 2000 getColour).2.error =
        some "Partition 'default' not found" :=
  ⟨⟨colourText⟩, fun _ => ⟨⟨colourCache, none⟩, rfl, rfl, rfl⟩⟩

end CacheNode

end VngDatabase.Cache
