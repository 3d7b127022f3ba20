import RequestLog.Proofs.Journal.Accounts

/-!
Histories: moments each of which is possible after those before it. A history alone decides how
many lines each record gives, which hooks answer them and in which order they are emitted.
-/
namespace RequestLog

open Journal (Begins Closes)

variable {σ : Type} (l : Logger σ) (host : Host σ)

namespace Moment

/-- What a hook may come to after the moments before it. -/
inductive Follows (past : List (Moment σ)) : Moment σ → Prop where
  | start {id : String} {request : Request} {k : Nat} {answer : Except Fault (Answer σ)}
      {calls : List (Call σ)} (fresh : ∀ m ∈ past, m.about k = false)
      (begins : Begins l host answer calls) :
        Follows past ⟨.start id request, some k, answer, calls⟩
  | ending {hook : Hook σ} {k : Nat} {line : Except Fault (Option String)} {calls : List (Call σ)}
      (terminal : hook.isTerminal = true)
      (concludes : ∃ snapshot,
        l.Concludes host (l.immediate || past.any (·.closes k)) snapshot line calls) :
      Follows past ⟨hook, some k, line.map .line, calls⟩
  | quiet {m : Moment σ} (start : m.hook.isStart = false)
      (other : m.hook.isTerminal = false ∨ m.record = none) (calls : m.calls = []) : Follows past m

/-- Moments each of which follows those before it. -/
inductive History : List (Moment σ) → Prop where
  | nil : History []
  | snoc {past : List (Moment σ)} {m : Moment σ} (h : History past) (hm : m.Follows l host past) :
      History (past ++ [m])

theorem entriesOf_snoc (k : Nat) (past : List (Moment σ)) (m : Moment σ) :
    entriesOf k (past ++ [m]) = entriesOf k past ++ if m.about k then m.entries else [] := by
  cases h : m.about k <;> simp [entriesOf, List.filter_append, h]

theorem endings_snoc (k : Nat) (past : List (Moment σ)) (m : Moment σ) :
    endings k (past ++ [m]) = endings k past ++ if m.closes k then [m] else [] := by
  cases h : m.closes k <;> simp [endings, List.filter_append, h]

theorem any_closes_iff {k : Nat} {past : List (Moment σ)} :
    past.any (·.closes k) = false ↔ endings k past = [] := by
  simp [endings, List.filter_eq_nil_iff]

end Moment

namespace Moment

variable {l host} {past moments : List (Moment σ)} {m : Moment σ}

/-- Of a logger that does not log immediately, a moment either ends no request of a record and
emits nothing for it, or is one logging of the record if none has ended the request before. -/
theorem Follows.deferred_cases (hi : l.immediate = false) (h : m.Follows l host past) (k : Nat) :
    (m.closes k = false ∧ (m.about k = true → m.entries = [])) ∨
      (m.closes k = true ∧ m.about k = true ∧ ∃ line, m.answer = line.map .line ∧
        ∃ snapshot, l.Concludes host (past.any (·.closes k)) snapshot line m.calls) := by
  cases h with
  | start fresh begins =>
    obtain ⟨r, -, snapshot, hr⟩ := begins
    rw [Logger.Opens, hi] at hr
    refine .inl ⟨rfl, fun _ => ?_⟩
    rw [entries, hr.1]
    rfl
  | @ending hook k' line calls terminal concludes =>
    by_cases hk : k' = k
    · subst hk
      have hc : Moment.about k' ⟨hook, some k', line.map Answer.line, calls⟩ = true := by
        simp [about]
      rw [hi, Bool.false_or] at concludes
      exact .inr ⟨by rw [closes, hc, terminal]; rfl, hc, line, rfl, concludes⟩
    · have hc : Moment.about k ⟨hook, some k', line.map Answer.line, calls⟩ = false := by
        simp [about, hk]
      exact .inl ⟨by rw [closes, hc, Bool.and_false], fun ha => by rw [hc] at ha; cases ha⟩
  | quiet start other calls =>
    refine .inl ⟨?_, fun _ => by rw [entries, calls]; rfl⟩
    rcases other with h | h <;> simp [closes, about, h]

namespace History

/-- A record whose request has not ended has given no line. -/
theorem entriesOf_of_open (hi : l.immediate = false) (h : History l host moments) (k : Nat)
    (he : endings k moments = []) : entriesOf k moments = [] := by
  induction h with
  | nil => rfl
  | @snoc past m h hm ih =>
    rw [endings_snoc, List.append_eq_nil_iff] at he
    obtain ⟨hpast, hlast⟩ := he
    rw [entriesOf_snoc, ih hpast, List.nil_append]
    rcases hm.deferred_cases hi k with ⟨-, hs⟩ | ⟨hc, -⟩
    · split
      · next ha => exact hs ha
      · rfl
    · rw [hc] at hlast
      cases hlast

/-- The first hook at the end of a request logs the record, and the later ones do nothing. -/
theorem entriesOf_of_ended (hi : l.immediate = false) (h : History l host moments) {k : Nat}
    {first : Moment σ} {later : List (Moment σ)} (he : endings k moments = first :: later) :
    entriesOf k moments = first.entries ∧
      (∃ snapshot line, first.answer = line.map .line ∧
        l.Logging host snapshot line first.calls) ∧
      ∀ m ∈ later, m.answer = .ok (.line none) ∧ m.calls = [] := by
  -- on the history from its end, for the first ending of the past stays the first
  induction h generalizing later with
  | nil => cases he
  | @snoc past m h hm ih =>
    rw [endings_snoc] at he
    rcases hm.deferred_cases hi k with ⟨hc, hs⟩ | ⟨hc, ha, line, hline, snapshot, hlog⟩
    · -- the moment does not end the request of the record
      rw [hc, if_neg Bool.false_ne_true, List.append_nil] at he
      obtain ⟨hent, hrest⟩ := ih he
      refine ⟨?_, hrest⟩
      rw [entriesOf_snoc, hent]
      split
      · next ha => rw [hs ha, List.append_nil]
      · rw [List.append_nil]
    · rw [hc, if_pos rfl] at he
      rw [entriesOf_snoc, ha, if_pos rfl]
      cases hp : endings k past with
      | nil =>
        -- it is the first to do so
        rw [hp, List.nil_append] at he
        obtain ⟨rfl, rfl⟩ := List.cons_eq_cons.mp he
        rw [any_closes_iff.mpr hp] at hlog
        refine ⟨?_, ⟨snapshot, line, hline, hlog⟩, by simp⟩
        rw [h.entriesOf_of_open hi k hp, List.nil_append]
      | cons first' earlier =>
        -- an earlier moment did, so the record is settled and the logger silent
        rw [hp, List.cons_append] at he
        obtain ⟨rfl, rfl⟩ := List.cons_eq_cons.mp he
        have hany : past.any (·.closes k) = true := by
          rw [← Bool.not_eq_false, any_closes_iff, hp]
          exact List.cons_ne_nil _ _
        rw [hany] at hlog
        obtain ⟨rfl, hcalls⟩ := hlog
        obtain ⟨hent, hfirst, hearlier⟩ := ih hp
        refine ⟨?_, hfirst, ?_⟩
        · rw [hent, entries, entries, hcalls]
          exact List.append_nil _
        · intro m' hm'
          rcases List.mem_append.mp hm' with hm' | hm'
          · exact hearlier m' hm'
          · rw [List.mem_singleton.mp hm']
            exact ⟨hline, hcalls⟩

/-- What holds of every moment that follows others holds of all moments of a history. -/
theorem forall_mem {P : Moment σ → Prop} (h : History l host moments)
    (hP : ∀ past m, m.Follows l host past → P m) : ∀ m ∈ moments, P m := by
  induction h with
  | nil => simp
  | @snoc past m h hm ih =>
    intro m' hm'
    rcases List.mem_append.mp hm' with hm' | hm'
    · exact ih m' hm'
    · rw [List.mem_singleton.mp hm']
      exact hP past m hm

end History

end Moment

end RequestLog
