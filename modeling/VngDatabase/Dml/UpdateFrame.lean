import VngDatabase.Dml.Direct

/-!
# Which rows an UPDATE writes

An `UPDATE` of the direct path (`services/voltnuerongridd/src/handlers/sql.rs`) by a column other
than `id` scans for its rows.
-/

namespace VngDatabase.Dml

open Store Sql Overlay List

section

variable {E : Type} [DurabilityEngine E] [Unicode]
  {validate : String → RowData → Except String Unit} {db stmt : String} {st : State E}

/-- **No row is invented**, and only rows of the `WHERE` clause change. -/
structure UpdatesOnly (validate : String → RowData → Except String Unit)
    (satisfies : String → RowData → Prop) (db stmt : String) (st : State E) : Prop where
  keys : ∀ key, ((sqlExecuteDirect validate db [stmt] st).1.rowStore.readLatest key).isSome ↔
    (st.started.rowStore.readLatest key).isSome
  changed : ∀ key data, st.started.rowStore.readLatest key = some data →
    (sqlExecuteDirect validate db [stmt] st).1.rowStore.readLatest key ≠ some data →
      satisfies key data

theorem plan_of_update (h : dmlKind stmt = some .update) :
    plan stmt = .nothing ∨ (∃ t, plan stmt = .scanUpdate t) ∨
      ∃ rawKey columns, plan stmt = .keyedUpdate rawKey columns := by
  unfold plan
  rw [h]
  cases extractUpdateRowFromSql stmt with
  | none => exact .inl rfl
  | some row =>
    cases scanUpdateTarget stmt with
    | some t => exact .inr (.inl ⟨t, rfl⟩)
    | none => exact .inr (.inr ⟨_, _, rfl⟩)

theorem readLatest_update (val : String → RowData → Except String Unit) (db : String)
    (h : dmlKind stmt = some .update) (hcap : st.rowStore.maxRowsCap = 0) :
    (sqlExecuteDirect val db [stmt] st).1.rowStore.readLatest =
        overlay (userWrites db stmt st.started) st.started.rowStore.readLatest ∧
      ∀ w ∈ userWrites db stmt st.started, w.2 ≠ none := by
  have hok : (directStatement val db st.rowStore.nextXid stmt st.started).2 = none := by
    rw [directStatement_eq]
    rcases plan_of_update h with hplan | ⟨t, hplan⟩ | ⟨rawKey, columns, hplan⟩ <;> rw [hplan]
  have hwr : directWrites db stmt st.started = userWrites db stmt st.started := by
    rw [directWrites, h]
  have hshw := directStatement_shows st.rowStore.newest_beginXid hok
  rw [hwr] at hshw
  refine ⟨?_, ?_⟩
  · rw [sqlExecuteDirect_singleton, State.readLatest_releaseWriteIntents]
    exact PagedRowStore.Writes.readLatest_eq_overlay hshw hcap
  · rw [userWrites_eq]
    intro w hw
    rcases plan_of_update h with hplan | ⟨t, hplan⟩ | ⟨rawKey, columns, hplan⟩ <;> rw [hplan] at hw
    · cases hw
    · obtain ⟨row, -, rfl⟩ := mem_map.mp hw
      exact nofun
    · rw [mem_singleton.mp hw]
      exact nofun

end

section

local instance asciiUpdates : Unicode := .ascii

def emptyState : State InMemoryEngine := ⟨PagedRowStore.new 256, {}, []⟩

end

end VngDatabase.Dml
