import RequestLog.Proofs.Actions
import RequestLog.Proofs.Tables
import RequestLog.Registries

/-!
Registries over whole runs. What an event makes is said once; from it follow what the registries
hold, which is what was registered with them, and what leaves a registry as it is.
-/
namespace RequestLog

variable {σ : Type}

/-- The name and the extractor that are registered, if the name is a text and the offer an
extractor. -/
def registration? : Value × ExtractorOffer σ → Option (String × Extractor σ)
  | (.text name, .extractor e) => some (name, e)
  | _ => none

/-- A name and an extractor as they are offered to a registry. -/
def offered (p : String × Extractor σ) : Value × ExtractorOffer σ :=
  (.text p.1, .extractor p.2)

namespace Registry

variable {r r' : Registry σ} {token : Value} {offer : ExtractorOffer σ}
  {pairs : List (Value × ExtractorOffer σ)} {past taken : List (String × Extractor σ)}

theorem register_of_frozen (h : r.frozen = true) (token : Value) (offer : ExtractorOffer σ) :
    r.register token offer = .error (.registryFrozen token) := by
  unfold register
  rw [if_pos h]

theorem register_ok_iff :
    r.register token offer = .ok r' ↔ r.frozen = false ∧ ∃ p : String × Extractor σ,
      (token, offer) = offered p ∧ isTokenName p.1.toList = true ∧
        r' = ⟨r.table.put p.1 p.2, false⟩ := by
  constructor
  · intro h
    unfold register at h
    split at h
    · cases h
    next hfrozen =>
    have hfrozen : r.frozen = false := Bool.not_eq_true _ ▸ hfrozen
    cases offer with
    | value v => cases h
    | extractor e =>
      cases token with
      | text name =>
        dsimp only at h
        split at h
        · next hname =>
          cases h
          exact ⟨hfrozen, (name, e), rfl, hname, by rw [hfrozen]⟩
        · cases h
      | _ => cases h
  · rintro ⟨hfrozen, ⟨name, e⟩, hoffered, hname, rfl⟩
    cases hoffered
    simp [register, hfrozen, hname]

/-- A registry whose table comes of registrations, each under a name that a format can mention. -/
structure Took (r : Registry σ) (past : List (String × Extractor σ)) : Prop where
  table : r.table = Table.ofList past
  valid : ∀ p ∈ past, isTokenName p.1.toList = true

theorem Took.register (h : r.Took past) (hr : r.register token offer = .ok r') :
    r'.Took (past ++ (registration? (token, offer)).toList) := by
  obtain ⟨-, p, hoffered, hname, rfl⟩ := register_ok_iff.mp hr
  rw [hoffered]
  refine ⟨?_, fun q hq => ?_⟩
  · exact h.table ▸ (Table.ofList_concat past p).symm
  · rcases List.mem_append.mp hq with hq | hq
    · exact h.valid q hq
    · obtain rfl := List.mem_singleton.mp hq
      exact hname

theorem Took.registerAll (h : r.Took past)
    (hr : pairs.foldlM (fun r p => r.register p.1 p.2) r = .ok r') :
    r'.Took (past ++ pairs.filterMap registration?) := by
  induction pairs generalizing r past with
  | nil =>
    cases hr
    simpa using h
  | cons p rest ih =>
    rw [List.foldlM_cons] at hr
    obtain ⟨next, hnext, hr⟩ := bind_eq_ok.mp hr
    have hrest := ih (h.register hnext) hr
    rw [List.append_assoc] at hrest
    cases hp : registration? p <;> simpa [List.filterMap_cons, hp] using hrest

theorem took_of_ofOffers (h : ofOffers pairs = .ok r) :
    r.Took (pairs.filterMap registration?) := by
  have hempty : (empty : Registry σ).Took [] := ⟨rfl, fun _ hp => nomatch hp⟩
  exact hempty.registerAll h

theorem foldlM_offered (h : ∀ p ∈ taken, isTokenName p.1.toList = true)
    (past : List (String × Extractor σ)) :
    (taken.map offered).foldlM (fun r p => Registry.register r p.1 p.2) ⟨Table.ofList past,
      false⟩ =
      .ok ⟨Table.ofList (past ++ taken), false⟩ := by
  induction taken generalizing past with
  | nil => simp; rfl
  | cons p rest ih =>
    obtain ⟨hp, hrest⟩ := List.forall_mem_cons.mp h
    have hfirst : Registry.register (⟨Table.ofList past, false⟩ : Registry σ)
        (offered p).1 (offered p).2 =
        .ok ⟨Table.ofList (past ++ [p]), false⟩ := by
      rw [Table.ofList_concat]
      exact register_ok_iff.mpr ⟨rfl, p, rfl, hp, rfl⟩
    rw [List.map_cons, List.foldlM_cons, hfirst]
    have := ih hrest (past ++ [p])
    rw [List.append_assoc] at this
    exact this

namespace Took

theorem names (h : r.Took past) : r.names = (past.map Prod.fst).eraseDups := by
  rw [Registry.names, h.table, Table.names_ofList]

theorem nodup (h : r.Took past) : r.names.Nodup := by
  rw [Registry.names, h.table]
  exact Table.nodup_names_ofList past

theorem get? (h : r.Took past) (name : String) : r.table.get? name = past.reverse.lookup name := by
  rw [h.table, Table.get?_ofList]

theorem valid_of_mem_names (h : r.Took past) {name : String} (hn : name ∈ r.names) :
    isTokenName name.toList = true := by
  rw [h.names, List.mem_eraseDups] at hn
  obtain ⟨p, hp, rfl⟩ := List.mem_map.mp hn
  exact h.valid p hp

/-- Registering what a registry holds, entry by entry, makes its copy. -/
theorem ofOffers_entries (h : r.Took past) : ofOffers (r.table.entries.map offered) =
    .ok r.copy := by
  have hvalid : ∀ p ∈ r.table.entries, isTokenName p.1.toList = true :=
    fun p hp => h.valid_of_mem_names (List.mem_map_of_mem hp)
  have hfold := foldlM_offered hvalid []
  rw [List.nil_append, Table.ofList_of_nodup h.nodup] at hfold
  exact hfold

end Took

/-- A registry holds each name once, only names that a format can mention, and an extractor for
each: the one that was registered last under the name. The names come in the order of their first
registrations. Registering what it holds, entry by entry, makes its copy. -/
structure Upholds (r : Registry σ) (past : List (String × Extractor σ)) : Prop where
  once : r.names.Nodup
  valid : ∀ name ∈ r.names, isTokenName name.toList = true
  bound : ∀ name ∈ r.names, ∃ extractor, r.get name = .ok extractor
  last : ∀ name, r.table.get? name = past.reverse.lookup name
  first : r.names = (past.map Prod.fst).eraseDups
  copied : ofOffers (r.table.entries.map offered) = .ok r.copy

theorem Took.upholds (h : r.Took past) : r.Upholds past where
  once := h.nodup
  valid _ := h.valid_of_mem_names
  bound name hn := by
    obtain ⟨extractor, hextractor⟩ := Table.exists_get?_of_mem_names hn
    exact ⟨extractor, by rw [get, hextractor]⟩
  last := h.get?
  first := h.names
  copied := h.ofOffers_entries

end Registry

/-- Building a formatter freezes the registry, and leaves it as it is if the formatter cannot be
built. -/
theorem Formatter.build_cases (r : Registry σ) (settings : FormatterSettings) :
    (∃ fault, Formatter.build r settings = (.error fault, r)) ∨
    ∃ f, Formatter.build r settings = (.ok f, r.freeze) := by
  unfold Formatter.build
  split
  · exact .inl ⟨_, rfl⟩
  · dsimp only
    split
    · exact .inr ⟨_, rfl⟩
    · exact .inl ⟨_, rfl⟩
    · exact .inl ⟨_, rfl⟩

namespace Registries

open Registry (Took)

/-- What an event that succeeds makes. -/
inductive Makes (rs : Registries σ) : Event σ → Registry σ → Prop where
  | create {name : String} {pairs : List (Value × ExtractorOffer σ)} {made : Registry σ}
      (pass : Registry.ofOffers pairs = .ok made) : Makes rs (.create name pairs) made
  | register {name : String} {token : Value} {offer : ExtractorOffer σ} {r made : Registry σ}
      (held : rs.get? name = some r) (pass : r.register token offer = .ok made) :
      Makes rs (.register name token offer) made
  | freeze {name : String} {r : Registry σ} (held : rs.get? name = some r) :
      Makes rs (.freeze name) r.freeze
  | copy {name target : String} {r : Registry σ} (held : rs.get? name = some r) :
      Makes rs (.copy name target) r.copy
  /-- Building a formatter freezes the registry. -/
  | build {name : String} {settings : FormatterSettings} {r : Registry σ}
      (held : rs.get? name = some r) : Makes rs (.build name settings) r.freeze

/-- The registry that an event is about. -/
def Event.target : Event σ → String
  | .create name _ | .register name _ _ | .freeze name | .build name _ => name
  | .copy _ target => target

variable {rs : Registries σ} {e : Event σ} {name : String} {r made : Registry σ} {fault : Fault}

theorem registry_ok_iff : rs.registry name = .ok r ↔ rs.get? name = some r := by
  unfold registry
  cases rs.get? name <;> simp

theorem putMade_cases (rs : Registries σ) (name : String) (result : Except Fault (Registry σ)) :
    (∃ fault, putMade rs name result = (.error fault, rs)) ∨
    ∃ made, result = .ok made ∧ putMade rs name result = (.ok none, rs.put name made) := by
  cases result with
  | error fault => exact .inl ⟨fault, rfl⟩
  | ok made => exact .inr ⟨made, rfl, rfl⟩

/-- An event fails and leaves all registries as they are, or it makes one registry and leaves the
others as they are. -/
theorem step_cases (rs : Registries σ) (e : Event σ) :
    (∃ fault, rs.step e = (.error fault, rs)) ∨
    ∃ answer made, rs.step e = (.ok answer, rs.put e.target made) ∧ Makes rs e made := by
  cases e with
  | create name pairs =>
    rcases putMade_cases rs name (Registry.ofOffers pairs) with hfail | ⟨made, hmade, hput⟩
    · exact .inl hfail
    · exact .inr ⟨none, made, hput, .create hmade⟩
  | register name token offer =>
    rcases putMade_cases rs name ((rs.registry name).bind (·.register token offer)) with
      hfail | ⟨made, hmade, hput⟩
    · exact .inl hfail
    · obtain ⟨r, hr, hregister⟩ := bind_eq_ok.mp hmade
      exact .inr ⟨none, made, hput, .register (registry_ok_iff.mp hr) hregister⟩
  | freeze name =>
    rcases putMade_cases rs name ((rs.registry name).map Registry.freeze) with
      hfail | ⟨made, hmade, hput⟩
    · exact .inl hfail
    · obtain ⟨r, hr, rfl⟩ := map_eq_ok.mp hmade
      exact .inr ⟨none, r.freeze, hput, .freeze (registry_ok_iff.mp hr)⟩
  | copy name target =>
    rcases putMade_cases rs target ((rs.registry name).map Registry.copy) with
      hfail | ⟨made, hmade, hput⟩
    · exact .inl hfail
    · obtain ⟨r, hr, rfl⟩ := map_eq_ok.mp hmade
      exact .inr ⟨none, r.copy, hput, .copy (registry_ok_iff.mp hr)⟩
  | build name settings =>
    cases hr : rs.registry name with
    | error fault =>
      refine .inl ⟨fault, ?_⟩
      rw [step, hr]
    | ok r =>
      have hheld := registry_ok_iff.mp hr
      have hstep : rs.step (.build name settings) =
          ((Formatter.build r settings).1.map some,
          rs.put name (Formatter.build r settings).2) := by
        rw [step, hr]
      rcases Formatter.build_cases r settings with ⟨fault, hbuild⟩ | ⟨f, hbuild⟩
      · rw [hbuild, Table.put_of_get? hheld] at hstep
        exact .inl ⟨fault, hstep⟩
      · rw [hbuild] at hstep
        exact .inr ⟨some f, r.freeze, hstep, .build hheld⟩

theorem step_of_error (h : (rs.step e).1 = .error fault) : rs.step e = (.error fault, rs) := by
  rcases step_cases rs e with ⟨fault, hstep⟩ | ⟨answer, made, hstep, -⟩
  · rw [hstep] at h ⊢
    cases h
    rfl
  · rw [hstep] at h
    cases h

section Frames

/-- An event about one registry leaves the others as they are. -/
theorem get?_step_of_ne (h : e.target ≠ name) : (rs.step e).2.get? name = rs.get? name := by
  rcases step_cases rs e with ⟨fault, hstep⟩ | ⟨answer, made, hstep, -⟩
  · rw [hstep]
  · rw [hstep, Table.get?_put, if_neg (Ne.symm h)]

/-- Whether an event puts a registry of its own under a name. -/
def Event.Rebinds (name : String) : Event σ → Prop
  | .create n _ => n = name
  | .copy _ target => target = name
  | .register .. | .freeze _ | .build .. => False

/-- A frozen registry stays as it is under its name, until another one is put there. -/
theorem get?_step_of_frozen (h : rs.get? name = some r) (hr : r.frozen = true)
    (he : ¬ e.Rebinds name) : (rs.step e).2.get? name = some r := by
  by_cases htarget : e.target = name
  · have hfreeze : r.freeze = r := by
      rw [Registry.freeze, ← hr]
    rcases step_cases rs e with ⟨fault, hstep⟩ | ⟨answer, made, hstep, hmakes⟩
    · rw [hstep, h]
    · have hmade : made = r := by
        cases hmakes with
        | create pass => exact absurd htarget he
        | copy held => exact absurd htarget he
        | register held pass =>
          subst htarget
          cases held.symm.trans h
          rw [Registry.register_of_frozen hr] at pass
          cases pass
        | freeze held =>
          subst htarget
          cases held.symm.trans h
          exact hfreeze
        | build held =>
          subst htarget
          cases held.symm.trans h
          exact hfreeze
      rw [hstep, Table.get?_put, if_pos htarget.symm, hmade]
  · rw [get?_step_of_ne htarget, h]

theorem get?_run_of_frozen {events : List (Event σ)} (h : rs.get? name = some r)
    (hr : r.frozen = true) (he : ∀ e ∈ events, ¬ e.Rebinds name) :
    (run events rs).2.get? name = some r := by
  induction events generalizing rs with
  | nil => exact h
  | cons e rest ih =>
    obtain ⟨hfirst, hrest⟩ := List.forall_mem_cons.mp he
    rw [run]
    exact ih (get?_step_of_frozen h hr hfirst) hrest

/-- What an event does to a registry, other than putting another one in its place, it does whatever
the other registries are. -/
theorem step_congr {rs' : Registries σ} (h : rs.get? name = rs'.get? name)
    (htarget : e.target = name)
    (he : ¬ e.Rebinds name) : (rs.step e).2.get? name = (rs'.step e).2.get? name := by
  have hregistry : rs.registry name = rs'.registry name := by
    rw [registry, registry, h]
  have hput : ∀ result : Except Fault (Registry σ),
      (putMade rs name result).2.get? name = (putMade rs' name result).2.get? name := by
    intro result
    cases result with
    | error fault => exact h
    | ok made => simp [putMade, Table.get?_put]
  cases e with
  | create n pairs => exact absurd htarget he
  | copy n target => exact absurd htarget he
  | register n token offer =>
    obtain rfl : n = name := htarget
    rw [step, step, hregistry]
    exact hput _
  | freeze n =>
    obtain rfl : n = name := htarget
    rw [step, step, hregistry]
    exact hput _
  | build n settings =>
    obtain rfl : n = name := htarget
    rw [step, step, hregistry]
    cases rs'.registry n with
    | error fault => exact h
    | ok r => simp [Table.get?_put]

/-- What becomes of a registry is what becomes of it by the events about it alone. -/
theorem get?_run_filter {rs' : Registries σ} {events : List (Event σ)}
    (h : rs.get? name = rs'.get? name) (he : ∀ e ∈ events, ¬ e.Rebinds name) :
    (run events rs).2.get? name = (run (events.filter (·.target = name)) rs').2.get? name := by
  induction events generalizing rs rs' with
  | nil => exact h
  | cons e rest ih =>
    obtain ⟨hfirst, hrest⟩ := List.forall_mem_cons.mp he
    by_cases htarget : e.target = name
    · rw [List.filter_cons_of_pos (by simpa using htarget), run, run]
      exact ih (step_congr h htarget hfirst) hrest
    · rw [List.filter_cons_of_neg (by simpa using htarget), run]
      exact ih ((get?_step_of_ne htarget).trans h) hrest

end Frames

section Histories

/-- The registrations that each registry has taken, by the names of the registries. -/
abbrev Registrations (σ : Type) := String → List (String × Extractor σ)

/-- The registrations after an event that succeeds. A new registry has taken the pairs that it is
made of, and a copy what the registry has taken that it is a copy of. -/
def Event.record (past : Registrations σ) : Event σ → Registrations σ
  | .create name pairs => Function.update past name (pairs.filterMap registration?)
  | .register name token offer =>
    Function.update past name (past name ++ (registration? (token, offer)).toList)
  | .copy name target => Function.update past target (past name)
  | .freeze _ | .build .. => past

/-- The registrations after events one after the other. An event that fails registers nothing. -/
def registrations : List (Event σ) → Registries σ → Registrations σ → Registrations σ
  | [], _, past => past
  | e :: rest, rs, past =>
    registrations rest (rs.step e).2 <|
      match (rs.step e).1 with
      | .ok _ => e.record past
      | .error _ => past

/-- Each registry comes of the registrations that it has taken. -/
def Backed (rs : Registries σ) (past : Registrations σ) : Prop :=
  ∀ name r, rs.get? name = some r → r.Took (past name)

variable {past : Registrations σ}

theorem took_of_makes (h : Backed rs past) (hm : Makes rs e made) :
    made.Took (e.record past e.target) := by
  cases hm with
  | create pass =>
    simp only [Event.record, Event.target, Function.update_self]
    exact Registry.took_of_ofOffers pass
  | register held pass =>
    simp only [Event.record, Event.target, Function.update_self]
    exact (h _ _ held).register pass
  | copy held =>
    simp only [Event.record, Event.target, Function.update_self]
    exact ⟨(h _ _ held).table, (h _ _ held).valid⟩
  | freeze held => exact ⟨(h _ _ held).table, (h _ _ held).valid⟩
  | build held => exact ⟨(h _ _ held).table, (h _ _ held).valid⟩

theorem record_of_ne (past : Registrations σ) (h : name ≠ e.target) :
    e.record past name = past name := by
  cases e with
  | create n pairs => exact Function.update_of_ne h _ _
  | register n token offer => exact Function.update_of_ne h _ _
  | copy n target => exact Function.update_of_ne h _ _
  | freeze n => rfl
  | build n settings => rfl

theorem backed_run (events : List (Event σ)) (h : Backed rs past) :
    Backed (run events rs).2 (registrations events rs past) := by
  induction events generalizing rs past with
  | nil => exact h
  | cons e rest ih =>
    rw [run, registrations]
    apply ih
    rcases step_cases rs e with ⟨fault, hstep⟩ | ⟨answer, made, hstep, hmakes⟩
    · rw [hstep]
      exact h
    · rw [hstep]
      intro name r hr
      rw [Table.get?_put] at hr
      split at hr
      · next hname =>
        cases hr
        rw [hname]
        exact took_of_makes h hmakes
      · next hname =>
        change r.Took (e.record past name)
        rw [record_of_ne past hname]
        exact h name r hr

end Histories

/-- The registries after any events, whether they succeed or fail. Each upholds the registrations
it has taken; an event that fails leaves all of them as they are; a frozen one refuses every
registration and stays as it is while nothing else is put in its place; and a copy is not frozen
and has the same entries, after which what becomes of it and of the registry it is a copy of is up
to the events about each of them alone. -/
theorem run_upholds (events : List (Event σ)) :
    let rs : Registries σ := (run events Table.empty).2
    (∀ name r, rs.get? name = some r →
      r.Upholds (registrations events Table.empty (fun _ => []) name)) ∧
    (∀ e fault, (rs.step e).1 = .error fault → (rs.step e).2 = rs) ∧
    (∀ name r, rs.get? name = some r → r.frozen = true →
      (∀ token offer, rs.step (.register name token offer) = (.error (.registryFrozen token),
        rs)) ∧
      ∀ later, (∀ e ∈ later, ¬ Event.Rebinds name e) → (run later rs).2.get? name = some r) ∧
    ∀ name target r, rs.get? name = some r → ∃ copied,
      rs.step (.copy name target) = (.ok none, copied) ∧
      copied.get? target = some ⟨r.table, false⟩ ∧
      (name ≠ target → copied.get? name = some r) ∧
      ∀ n later, (∀ e ∈ later, ¬ Event.Rebinds n e) →
        (run later copied).2.get? n = (run (later.filter (·.target = n)) copied).2.get? n := by
  intro rs
  have hbacked : Backed rs (registrations events Table.empty fun _ => []) :=
    backed_run events fun _ _ h => nomatch h
  refine ⟨fun name r hr => (hbacked name r hr).upholds, fun e fault h => ?_,
    fun name r hr hfrozen => ?_, fun name target r hr => ?_⟩
  · rw [step_of_error h]
  · refine ⟨fun token offer => ?_, fun later hlater => get?_run_of_frozen hr hfrozen hlater⟩
    rw [step, registry_ok_iff.mpr hr]
    simp [Except.bind, Registry.register_of_frozen hfrozen, putMade]
  · refine ⟨rs.put target r.copy, ?_, ?_, fun hne => ?_, fun n later hlater => ?_⟩
    · rw [step, registry_ok_iff.mpr hr]
      rfl
    · rw [Table.get?_put, if_pos rfl]
      rfl
    · rw [Table.get?_put, if_neg hne, hr]
    · exact get?_run_filter rfl hlater

/-- An extractor that never has a value. -/
def absent (shown : String) : Extractor Unit :=
  ⟨shown, fun _ _ => Action.done .null⟩

/-- A registry is filled and frozen, and a copy of it takes a registration that it refuses. -/
def setup : List (Event Unit) :=
  [.create "log" [offered ("first", absent "one"), offered ("second", absent "two")],
    .register "log" (.text "first") (.extractor (absent "three")),
    .freeze "log",
    .register "log" (.text "late") (.extractor (absent "four")),
    .copy "log" "own",
    .register "own" (.text "late") (.extractor (absent "four"))]

theorem run_upholds_setup :
    ∃ r own : Registry Unit, (run setup Table.empty).2.get? "log" = some r ∧ r.frozen = true ∧
      r.Upholds [("first", absent "one"), ("second", absent "two"), ("first", absent "three")] ∧
      (run setup Table.empty).2.get? "own" = some own ∧ own.frozen = false ∧
      own.names = ["first", "second", "late"] := by
  obtain ⟨hupholds, -, -, -⟩ := run_upholds setup
  refine ⟨⟨⟨[("first", absent "three"), ("second", absent "two")]⟩, true⟩,
    ⟨⟨[("first", absent "three"), ("second", absent "two"), ("late", absent "four")]⟩, false⟩,
    rfl, rfl, ?_, rfl, rfl, rfl⟩
  exact hupholds "log" _ rfl

end Registries

end RequestLog
