import RequestLog.Proofs.Journal.Histories
import RequestLog.Proofs.PlainHost

/-!
One line of each request. In a run of hooks on any number of records, in any order, each record is
handed to the emitter at most once: when it is started if the logger logs immediately, and
otherwise when its request ends for the first time. What fails for one record has no bearing on
another one. The invariant ties the stage of every record to the hooks that were called on it.
-/
namespace RequestLog

open Moment

variable {σ : Type} {l : Logger σ} {host : Host σ}

namespace Journal

/-- A ledger knows the records of a journal, and every record is settled as the moments of it
tell. -/
structure Fits (l : Logger σ) (g : Ledger) (past : List (Moment σ)) (j : Journal σ) : Prop where
  known : ∀ id, g.names.get? id = none ↔ j.records.get? id = none
  apart : ∀ id id' k, g.names.get? id = some k → g.names.get? id' = some k → id = id'
  below : ∀ id k, g.names.get? id = some k → k < g.next
  noted : ∀ m ∈ past, ∀ k, m.record = some k → k < g.next
  settled : ∀ id k r, g.names.get? id = some k → j.records.get? id = some r →
    (l.immediate || r.isLogged) = (l.immediate || past.any (·.closes k))

namespace Fits

variable {g : Ledger} {past : List (Moment σ)} {j : Journal σ}

theorem empty (s : σ) : Fits l Ledger.empty [] (fresh s) where
  known _ := ⟨fun _ => rfl, fun _ => rfl⟩
  apart _ _ _ h := nomatch h
  below _ _ h := nomatch h
  noted _ h := nomatch h
  settled _ _ _ h := nomatch h

/-- The next record is not one of the moments before. -/
theorem unnoted (h : Fits l g past j) : ∀ m ∈ past, m.about g.next = false := by
  intro m hm
  rw [about, beq_eq_false_iff_ne]
  intro hk
  exact Nat.lt_irrefl _ (h.noted m hm g.next hk)

theorem pass (h : Fits l g past j) {m : Moment σ} (hm : m.record = none) (s : σ) :
    Fits l g (past ++ [m]) ⟨j.records, s⟩ where
  known := h.known
  apart := h.apart
  below := h.below
  noted m' hm' k hk := by
    rcases List.mem_append.mp hm' with hm' | hm'
    · exact h.noted m' hm' k hk
    · rw [List.mem_singleton.mp hm', hm] at hk
      cases hk
  settled id k r hk hr := by
    rw [List.any_append, h.settled id k r hk hr]
    simp [closes, about, hm]

/-- A moment about a record that has a name replaces the record. -/
theorem replace (h : Fits l g past j) {m : Moment σ} {id : String} {k : Nat} {r : Record σ}
    (hid : g.names.get? id = some k) (hm : m.record = some k)
    (hr : (l.immediate || r.isLogged) = (l.immediate || (past.any (·.closes k) || m.closes k)))
    (s : σ) : Fits l g (past ++ [m]) ⟨j.records.put id r, s⟩ where
  known id' := by
    rw [Table.get?_put]
    split
    · next heq => simp [heq, hid]
    · exact h.known id'
  apart := h.apart
  below := h.below
  noted m' hm' k' hk' := by
    rcases List.mem_append.mp hm' with hm' | hm'
    · exact h.noted m' hm' k' hk'
    · rw [List.mem_singleton.mp hm', hm] at hk'
      cases hk'
      exact h.below id k hid
  settled id' k' r' hk' hr' := by
    rw [Table.get?_put] at hr'
    rw [List.any_append]
    split at hr'
    · next heq =>
      subst heq
      cases hr'
      rw [hid] at hk'
      cases hk'
      simpa using hr
    · next hne =>
      -- another name stands for another record, which the moment does not close
      have hkk : k ≠ k' := fun heq => hne (h.apart id' id k (heq ▸ hk') hid)
      have hc : m.closes k' = false := by simp [closes, about, hm, hkk]
      rw [h.settled id' k' r' hk' hr']
      simp [hc]

/-- A start that fails takes the next number. -/
theorem skip (h : Fits l g past j) {m : Moment σ} (hm : m.record = some g.next)
    (ht : m.hook.isTerminal = false) (s : σ) :
    Fits l ⟨g.next + 1, g.names⟩ (past ++ [m]) ⟨j.records, s⟩ where
  known := h.known
  apart := h.apart
  below id k hk := Nat.lt_succ_of_lt (h.below id k hk)
  noted m' hm' k hk := by
    rcases List.mem_append.mp hm' with hm' | hm'
    · exact Nat.lt_succ_of_lt (h.noted m' hm' k hk)
    · rw [List.mem_singleton.mp hm', hm] at hk
      cases hk
      exact Nat.lt_succ_self _
  settled id k r hk hr := by
    rw [List.any_append, h.settled id k r hk hr]
    simp [closes, ht]

theorem enter (h : Fits l g past j) {m : Moment σ} (hm : m.record = some g.next)
    (ht : m.hook.isTerminal = false) (id : String) {r : Record σ} (hr : r.isLogged = l.immediate)
    (s : σ) :
    Fits l ⟨g.next + 1, g.names.put id g.next⟩ (past ++ [m]) ⟨j.records.put id r, s⟩ where
  known id' := by
    rw [Table.get?_put, Table.get?_put]
    split
    · simp
    · exact h.known id'
  apart id₁ id₂ k h₁ h₂ := by
    rw [Table.get?_put] at h₁ h₂
    split at h₁ <;> split at h₂
    · next e₁ e₂ => exact e₁.trans e₂.symm
    · cases h₁
      exact absurd (h.below _ _ h₂) (Nat.lt_irrefl _)
    · cases h₂
      exact absurd (h.below _ _ h₁) (Nat.lt_irrefl _)
    · exact h.apart id₁ id₂ k h₁ h₂
  below id' k hk := by
    rw [Table.get?_put] at hk
    split at hk
    · cases hk
      exact Nat.lt_succ_self _
    · exact Nat.lt_succ_of_lt (h.below id' k hk)
  noted := (h.skip hm ht s).noted
  settled id' k r' hk hr' := by
    rw [Table.get?_put] at hk hr'
    rw [List.any_append]
    split at hk
    · next heq =>
      rw [if_pos heq] at hr'
      cases hk
      cases hr'
      -- the number is new, so no moment before closes its record
      have hpast : past.any (·.closes g.next) = false :=
        List.any_eq_false.mpr fun m' hm' => by simp [closes, h.unnoted m' hm']
      rw [hr, hpast]
      simp [closes, ht]
    · next hne =>
      rw [if_neg hne] at hr'
      rw [h.settled id' k r' hk hr']
      simp [closes, ht]

end Fits

variable {g : Ledger} {past : List (Moment σ)} {j : Journal σ}

/-- A step on the record of a name either finds none, or makes of the record what its action
makes. -/
theorem Fits.record_cases (h : Fits l g past j) {e : Event σ} {id : String}
    {act : Action (Record σ × σ) (Answer σ)}
    {watchedAct : Action (Record (Watched σ) × Watched σ) (Answer (Watched σ))}
    {made : Record σ → Except Fault (Answer σ) → List (Call σ) → Prop}
    (hstep : step l host e = onRecord id act)
    (hwatched : step l.watched host.watched e.watched = onRecord id watchedAct)
    (hc : CopiesOn made watchedAct act) :
    (g.names.get? id = none ∧ (step l host e j).2 = j ∧ callsOf l host e j = []) ∨
      ∃ k r, g.names.get? id = some k ∧ made r (step l host e j).1 (callsOf l host e j) ∧
        j.records.get? id = some r ∧ (step l host e j).2 =
          ⟨j.records.put id (act (r, j.host)).2.1, (act (r, j.host)).2.2⟩ := by
  rcases step_cases_of_onRecord hstep hwatched hc j with ⟨hnone, hmissing, hcalls⟩ | ⟨r, hr, hm,
    hpresent⟩
  · exact .inl ⟨(h.known id).mpr hnone, congrArg Prod.snd hmissing, hcalls⟩
  · rw [← congrArg Prod.fst hpresent] at hm
    cases hk : g.names.get? id with
    | none => simp [(h.known id).mp hk] at hr
    | some k => exact .inr ⟨k, r, rfl, hm, hr, congrArg Prod.snd hpresent⟩

/-- What a hook has to do: its moment follows those before it, and the ledger fits the journal
after it. -/
def Keeps (l : Logger σ) (host : Host σ) (g : Ledger) (past : List (Moment σ)) (j : Journal σ)
    (hook : Hook σ) : Prop :=
  (moment l host g j hook).Follows l host past ∧
    Fits l (g.after hook (moment l host g j hook).answer) (past ++ [moment l host g j hook])
      (step l host hook.event j).2

/-- A hook that logs nothing leaves a record as settled as it was. -/
theorem Fits.quiet (h : Fits l g past j) {hook : Hook σ} (id : String)
    {act : Action (Record σ × σ) (Answer σ)}
    {watchedAct : Action (Record (Watched σ) × Watched σ) (Answer (Watched σ))}
    (hstep : step l host hook.event = onRecord id act)
    (hwatched : step l.watched host.watched hook.event.watched = onRecord id watchedAct)
    (hc : CopiesOn Quiet watchedAct act)
    (hkeep : ∀ r s, (act (r, s)).2.1.isLogged = r.isLogged)
    (hrec : g.recordOf hook = g.names.get? id) (hafter : ∀ answer, g.after hook answer = g)
    (hs : hook.isStart = false) (ht : hook.isTerminal = false) : Keeps l host g past j hook := by
  rw [Keeps, hafter]
  rcases h.record_cases hstep hwatched hc with ⟨hk, hj, hcalls⟩ | ⟨k, r, hk, hm, hr, hj⟩
  · refine ⟨.quiet hs (.inl ht) hcalls, ?_⟩
    rw [hj]
    exact h.pass (hrec.trans hk) j.host
  · refine ⟨.quiet hs (.inl ht) hm, ?_⟩
    rw [hj]
    apply h.replace hk (hrec.trans hk)
    rw [hkeep, h.settled id k r hk hr]
    simp [closes, moment, ht]

/-- A hook at the end of a request settles the record. -/
theorem Fits.ending (h : Fits l g past j) {hook : Hook σ} (id : String)
    {act : Action (Record σ × σ) (Option String)}
    {watchedAct : Action (Record (Watched σ) × Watched σ) (Answer (Watched σ))}
    (hstep : step l host hook.event = onRecord id (speaking act))
    (hwatched : step l.watched host.watched hook.event.watched = onRecord id watchedAct)
    (hc : CopiesOn (Closes l host) watchedAct (speaking act))
    (hsettle : ∀ r s, (l.immediate || (act (r, s)).2.1.isLogged) = true)
    (hrec : g.recordOf hook = g.names.get? id) (hafter : ∀ answer, g.after hook answer = g)
    (hs : hook.isStart = false) (ht : hook.isTerminal = true) : Keeps l host g past j hook := by
  rw [Keeps, hafter]
  rcases h.record_cases hstep hwatched hc with ⟨hk, hj, hcalls⟩ | ⟨k, r, hk, hclosed, hr, hj⟩
  · refine ⟨.quiet hs (.inr (hrec.trans hk)) hcalls, ?_⟩
    rw [hj]
    exact h.pass (hrec.trans hk) j.host
  · obtain ⟨line, ha, snapshot, hl⟩ := hclosed
    constructor
    · rw [h.settled id k r hk hr] at hl
      have hf : Follows l host past ⟨hook, some k, line.map .line, callsOf l host hook.event j⟩ :=
        .ending ht ⟨snapshot, hl⟩
      rw [← ha, ← hk, ← hrec] at hf
      exact hf
    · rw [hj]
      apply h.replace hk (hrec.trans hk)
      rw [speaking_apply, hsettle]
      simp [closes, about, moment, ht, hrec, hk]

theorem Fits.start (h : Fits l g past j) (id : String) (request : Request) :
    Keeps l host g past j (.start id request) := by
  constructor
  · exact .start h.unnoted (start_watched l host id request j).callsOf
  · rcases hr : l.startRequest host request j.host with ⟨f | r, s⟩
    · have hstep : Journal.step l host (.start id request) j = (.error f, ⟨j.records, s⟩) := by
        simp only [Journal.step, Journal.start, hr]
      simp only [moment, Hook.event, hstep]
      exact h.skip rfl rfl s
    · have hstep : Journal.step l host (.start id request) j =
          (.ok .nothing, ⟨j.records.put id r, s⟩) := by
        simp only [Journal.step, Journal.start, hr]
      simp only [moment, Hook.event, hstep]
      exact h.enter rfl rfl id (l.startRequest_settles host hr) s

/-- Every hook keeps the invariant. -/
theorem Fits.step (h : Fits l g past j) (hook : Hook σ) : Keeps l host g past j hook := by
  cases hook with
  | start id request => exact h.start id request
  | handled id =>
    exact h.quiet id rfl rfl (finish_watched host) (fun r s => r.isLogged_finish _) rfl
      (fun _ => rfl) rfl rfl
  | responded id =>
    exact h.ending id rfl rfl (onResponse_watched l host) (l.conclude_settles host) rfl
      (fun _ => rfl) rfl rfl
  | failed id notFound =>
    exact h.ending id rfl rfl (onError_watched l host notFound)
      (l.onError_settles host notFound) rfl (fun _ => rfl) rfl rfl
  | setStatus id status =>
    exact h.quiet id rfl rfl (change_watched fun r => r.setStatus_watched status)
      (fun r s => rfl) rfl (fun _ => rfl) rfl rfl
  | setHeader id name value =>
    refine h.quiet id rfl rfl (setHeader_watched name value) (fun r s => ?_) rfl (fun _ => rfl) rfl
      rfl
    rw [silent_apply, Logger.setHeader_apply]
    exact r.isLogged_headed name value
  | elapse change =>
    refine ⟨.quiet rfl (.inl rfl) rfl, ?_⟩
    exact h.pass rfl _

/-- What every moment of a run keeps holds of the account of the run. -/
theorem account_induction {P : List (Moment σ) → Prop}
    (hstep : ∀ {g past j}, Fits l g past j → ∀ hook, P past → P (past ++ [moment l host g j hook]))
    (hooks : List (Hook σ)) (h : Fits l g past j) (hp : P past) :
    P (past ++ account l host hooks g j) := by
  -- each later hook is taken from the ledger and the journal that the one before it leaves
  induction hooks generalizing g past j with
  | nil => simpa [account] using hp
  | cons hook rest ih =>
    have hlater := ih (h.step hook).2 (hstep h hook hp)
    rwa [List.append_assoc, List.singleton_append] at hlater

theorem account_history (hooks : List (Hook σ)) (s : σ) :
    History l host (account l host hooks Ledger.empty (fresh s)) :=
  account_induction (fun h hook hp => hp.snoc (h.step hook).1) hooks (Fits.empty s) .nil

end Journal

end RequestLog
