import RequestLog.Proofs.PlainHost
import RequestLog.Proofs.Sink.Building
import RequestLog.Proofs.Sink.Directories
import RequestLog.Sink.FileLog

/-!
Opening a file for lines. The file is opened before the settings are looked at, so it is made, and
emptied where that is asked for, whether or not an emitter is built.
-/
namespace RequestLog

variable {σ : Type}

theorem Fault.checkPlaced_ok_iff {owner : String} {placed names : List String} :
    checkPlaced owner placed names = .ok () ↔ ∀ key ∈ names, key ∉ placed := by
  unfold checkPlaced
  cases hfound : names.find? placed.contains with
  | none => simpa [List.find?_eq_none] using hfound
  | some key =>
    have hplaced : key ∈ placed := by simpa using List.find?_some hfound
    simpa using ⟨key, List.mem_of_find?_eq_some hfound, hplaced⟩

/-- The name that is refused where only one has its place already. -/
theorem Fault.checkPlaced_of_only {owner key : String} {placed names : List String}
    (hk : key ∈ names)
    (hp : key ∈ placed) (honly : ∀ other ∈ names, other ∈ placed → other = key) :
    checkPlaced owner placed names = .error (.settingTwice owner key) := by
  unfold checkPlaced
  cases hfound : names.find? placed.contains with
  | none =>
    have hnone : ∀ other ∈ names, other ∉ placed := by simpa [List.find?_eq_none] using hfound
    exact absurd hp (hnone key hk)
  | some other =>
    have hother : other ∈ placed := by simpa using List.find?_some hfound
    rw [honly other (List.mem_of_find?_eq_some hfound) hother]

namespace FileLog

variable {host : Host σ} {place : DirectoryOf σ} {path name : String} {named : Table Value}
    {s t : σ}
  {fault : Fault}

/-- Whether a file is to be emptied by what is given by name. -/
def overwrites (named : Table Value) : Bool :=
  ((named.get? overwriting).getD (.bool false)).truthy

/-- What is left of a file, which may be missing, once it has been opened. -/
def leftOf (named : Table Value) (before : Option (List UInt8)) : List UInt8 :=
  if overwrites named then [] else before.getD []

/-- The names that are no settings of an emitter that writes to a file. -/
def unknownOf (named : Table Value) : List String :=
  named.names.filter fun key => key ∉ overwriting :: StreamSettings.known

/-- The name of the character set that is asked for, which is that of the default one for null. -/
def charsetName (named : Table Value) : Value :=
  match (named.get? "encoding").getD (.text Coding.defaultCharset) with
  | .null => .text Coding.defaultCharset
  | v => v

def treatmentName (named : Table Value) : Value :=
  (named.get? "errors").getD (.text Coding.defaultTreatment)

def separatorOf (named : Table Value) : Value :=
  (named.get? "sep").getD StreamSettings.default.separator

/-- Why no emitter is built of what is given by name, in the order in which it is looked at. -/
inductive Rejected (codecs : Codecs) (named : Table Value) : Fault → Prop where
  /-- A stream is given beside the file. -/
  | twice (given : "stream" ∈ named.names) :
      Rejected codecs named (.settingTwice "StreamEmitter" "stream")
  | unknown (once : "stream" ∉ named.names) (some : unknownOf named ≠ []) :
      Rejected codecs named (.unknownSettings (unknownOf named))
  | charset {fault : Fault} (once : "stream" ∉ named.names) (none : unknownOf named = [])
      (refused : Coding.charsetOf codecs (charsetName named) = .error fault) :
      Rejected codecs named fault
  | treatment {fault : Fault} (once : "stream" ∉ named.names) (none : unknownOf named = [])
      (found : ∃ charset, Coding.charsetOf codecs (charsetName named) = .ok charset)
      (refused : Coding.treatmentOf codecs (treatmentName named) = .error fault) :
        Rejected codecs named fault

/-- The coding in which an emitter writes to a file, if one is built. -/
def codingOf (codecs : Codecs) (named : Table Value) : Except Fault Coding :=
  if "stream" ∈ named.names then .error (.settingTwice "StreamEmitter" "stream")
  else if unknownOf named ≠ [] then .error (.unknownSettings (unknownOf named))
  else Coding.ofNames codecs (charsetName named) (treatmentName named)

theorem codingOf_error_iff {codecs : Codecs} :
    codingOf codecs named = .error fault ↔ Rejected codecs named fault := by
  unfold codingOf
  constructor
  · intro h
    split at h
    · next hgiven =>
      cases h
      exact .twice hgiven
    next honce =>
    split at h
    · next hsome =>
      cases h
      exact .unknown honce hsome
    next hnone =>
    have hnone : unknownOf named = [] := not_not.mp hnone
    rcases Coding.ofNames_error_iff.mp h with hcharset | ⟨hfound, htreatment⟩
    · exact .charset honce hnone hcharset
    · exact .treatment honce hnone hfound htreatment
  · rintro (hgiven | ⟨honce, hsome⟩ | ⟨honce, hnone, hcharset⟩ | ⟨honce, hnone, hfound,
      htreatment⟩)
    · rw [if_pos hgiven]
    · rw [if_neg honce, if_pos hsome]
    · rw [if_neg honce, if_neg (not_not.mpr hnone)]
      exact Coding.ofNames_error_iff.mpr (.inl hcharset)
    · rw [if_neg honce, if_neg (not_not.mpr hnone)]
      exact Coding.ofNames_error_iff.mpr (.inr ⟨hfound, htreatment⟩)

/-- The emitter that writes to a file by a handle. -/
def emitterOf (place : DirectoryOf σ) (named : Table Value) (name : String) (number : Nat)
    (coding : Coding) : StreamEmitter σ where
  label := label
  stream := some (stream place name number)
  binary := true
  coding := coding
  separator := separatorOf named

section Settings

theorem unknown_erase (named : Table Value) :
    ((named.erase overwriting).names.filter fun key => ! StreamSettings.known.contains key) =
      unknownOf named := by
  rw [Table.names_erase, List.filter_filter, unknownOf]
  apply List.filter_congr
  intro key _
  simp [Bool.and_comm]

/-- The settings that are passed on with a file that has been opened. -/
def given (named : Table Value) : StreamSettings where
  encoding := (named.get? "encoding").getD (.text Coding.defaultCharset)
  errors := treatmentName named
  separator := separatorOf named
  unknown := unknownOf named

theorem ofNamed_erase (hself : "self" ∉ named.names) :
    StreamSettings.ofNamed (.text Coding.defaultCharset) (named.erase overwriting) =
      if "stream" ∈ named.names then .error (.settingTwice "StreamEmitter" "stream")
      else .ok (given named) := by
  have hkept : ∀ key, key ≠ overwriting → (named.erase overwriting).get? key = named.get? key :=
    fun key hkey => Table.get?_erase_of_ne named hkey
  have hnames : ∀ key, key ∈ (named.erase overwriting).names ↔ key ∈ named.names ∧
      key ≠ overwriting := by
    intro key
    simp [Table.names_erase]
  unfold StreamSettings.ofNamed
  rw [unknown_erase, hkept "encoding" (by decide), hkept "errors" (by decide),
    hkept "sep" (by decide)]
  by_cases hstream : "stream" ∈ named.names
  · have hrefused : Fault.checkPlaced "StreamEmitter" StreamSettings.placed
      (named.erase overwriting).names =
        .error (.settingTwice "StreamEmitter" "stream") := by
      apply Fault.checkPlaced_of_only ((hnames _).mpr ⟨hstream, by decide⟩) (by decide)
      intro other hother hplaced
      simp only [StreamSettings.placed, List.mem_cons, List.not_mem_nil, or_false] at hplaced
      rcases hplaced with rfl | rfl
      · exact absurd ((hnames _).mp hother).1 hself
      · rfl
    rw [hrefused, if_pos hstream]
    rfl
  · have hfree : Fault.checkPlaced "StreamEmitter" StreamSettings.placed
      (named.erase overwriting).names =
        .ok () := by
      apply Fault.checkPlaced_ok_iff.mpr
      intro key hkey hplaced
      simp only [StreamSettings.placed, List.mem_cons, List.not_mem_nil, or_false] at hplaced
      rcases hplaced with rfl | rfl
      · exact hself ((hnames _).mp hkey).1
      · exact hstream ((hnames _).mp hkey).1
    rw [hfree, if_neg hstream]
    rfl

theorem encodingFor_given (place : DirectoryOf σ) (name : String) (number : Nat) :
    StreamEmitter.encodingFor (given named).encoding (stream place name number) = charsetName
    named := by
  simp only [StreamEmitter.encodingFor, given, charsetName, stream]
  cases (named.get? "encoding").getD (.text Coding.defaultCharset) <;> rfl

theorem codingFor_given (codecs : Codecs) (place : DirectoryOf σ) (name : String) (number : Nat) :
    (given named).codingFor codecs (stream place name number) =
      if unknownOf named ≠ [] then .error (.unknownSettings (unknownOf named))
      else Coding.ofNames codecs (charsetName named) (treatmentName named) := by
  have hunknown : (! (given named).unknown.isEmpty) = true ↔ unknownOf named ≠ [] := by
    simp [given]
  rw [StreamSettings.codingFor, encodingFor_given]
  simp only [hunknown]
  rfl

end Settings

/-- Whether an emitter is built or not, the file has been opened. -/
theorem build_of_located (host : Host σ) (hfree : ∀ key ∈ named.names, key ∉ placed)
    (hname : (place.get s).locate path = .ok name) :
    let opened := (place.get s).openHandle name (overwrites named)
    build host place path named s =
      ((codingOf host.codecs named).map fun coding => (name,
        emitterOf place named name opened.1 coding),
        place.set opened.2 s) := by
  intro opened
  have hself : "self" ∉ named.names := fun h => hfree _ h (by decide)
  have hopen : openFile place path ((named.get? overwriting).getD (.bool false)) s =
      (.ok (name, opened.1), place.set opened.2 s) := by
    simp only [openFile, hname]
    rfl
  rw [build, Fault.checkPlaced_ok_iff.mpr hfree, Action.andThen_of_ok (Action.ofExcept_apply _ _),
    Action.andThen_of_ok hopen, ofNamed_erase hself]
  unfold codingOf
  by_cases hstream : "stream" ∈ named.names
  · rw [if_pos hstream, if_pos hstream]
    rfl
  · rw [if_neg hstream, if_neg hstream, Action.andThen_of_ok (Action.ofExcept_apply _ _),
      Action.andThen_done, StreamEmitter.build_of_writable label _ (SinkOffer.named_stream _) rfl,
      codingFor_given]
    split
    · rfl
    · cases Coding.ofNames host.codecs (charsetName named) (treatmentName named) <;> rfl

/-- Nothing is opened where the file is named twice or the path is refused. -/
theorem build_of_unopened (host : Host σ) (place : DirectoryOf σ) (path : String)
    (h : (∃ key ∈ named.names, key ∈ placed) ∨ ∃ fault, (place.get s).locate path = .error fault) :
    ∃ fault, build host place path named s = (.error fault, s) := by
  unfold build
  cases hplaced : Fault.checkPlaced label placed named.names with
  | error fault => exact ⟨fault, rfl⟩
  | ok =>
    rcases h with ⟨key, hkey, hp⟩ | ⟨fault, hpath⟩
    · exact absurd hp (Fault.checkPlaced_ok_iff.mp hplaced key hkey)
    · have hopen : openFile place path ((named.get? overwriting).getD (.bool false)) s =
          (.error fault, s) := by
        simp only [openFile, hpath]
      refine ⟨fault, ?_⟩
      rw [Action.andThen_of_ok (Action.ofExcept_apply _ _)]
      exact Action.andThen_of_error hopen

/-- A setting that is rejected leaves the file as opening it has left it. -/
theorem files_of_rejected (host : Host σ) (hfree : ∀ key ∈ named.names, key ∉ placed)
    (hname : (place.get s).locate path = .ok name) (h : Rejected host.codecs named fault) :
    ∃ t, build host place path named s = (.error fault, t) ∧
      ∀ other, (place.get t).files.get? other =
        if other = name then some (leftOf named ((place.get s).files.get? name))
        else (place.get s).files.get? other := by
  have hbuild := build_of_located host hfree hname
  rw [codingOf_error_iff.mpr h] at hbuild
  refine ⟨_, hbuild, fun other => ?_⟩
  rw [place.get_set]
  exact Directory.get?_openHandle (place.get s) name other (overwrites named)

/-- Opening a file makes no difference exactly if it has been there and keeps what it holds. -/
theorem leftOf_eq_iff {before : Option (List UInt8)} : some (leftOf named before) = before ↔
    ∃ content, before = some content ∧ (overwrites named = true → content = []) := by
  unfold leftOf
  cases before with
  | none => simp
  | some content => cases overwrites named <;> simp [eq_comm]

/-- Why no emitter is built, unless nothing has been done. -/
theorem rejected_of_build (h : build host place path named s = (.error fault, t)) :
    t = s ∨ Rejected host.codecs named fault := by
  by_cases hopened : (∃ key ∈ named.names, key ∈ placed) ∨
      ∃ fault, (place.get s).locate path = .error fault
  · obtain ⟨cause, hbuild⟩ := build_of_unopened host place path hopened
    rw [h] at hbuild
    exact .inl (congrArg Prod.snd hbuild)
  · rw [not_or] at hopened
    obtain ⟨hnone, hlocated⟩ := hopened
    have hfree : ∀ key ∈ named.names, key ∉ placed := fun key hkey hp => hnone ⟨key, hkey, hp⟩
    cases hname : (place.get s).locate path with
    | error cause => exact absurd ⟨cause, hname⟩ hlocated
    | ok name =>
      rw [build_of_located host hfree hname] at h
      right
      apply codingOf_error_iff.mp
      cases hcoding : codingOf host.codecs named with
      | error cause =>
        rw [hcoding] at h
        cases h
        rfl
      | ok coding =>
        rw [hcoding] at h
        cases h

/-- Of a setting that is rejected the file learns nothing: it has been opened by then. So it is
there afterwards, emptied if it was to be, and neither it nor any other file differs from before
exactly if it had been there and nothing was to be emptied. No other failure touches a file. -/
theorem files_of_build (host : Host σ) (place : DirectoryOf σ) (path : String)
    (named : Table Value) (s : σ) :
    let files := (place.get s).files
    (∀ name fault, (∀ key ∈ named.names, key ∉ placed) → (place.get s).locate path = .ok name →
      Rejected host.codecs named fault → ∃ t, build host place path named s = (.error fault, t) ∧
        (∀ other, (place.get t).files.get? other =
          if other = name then some (leftOf named (files.get? name)) else files.get? other) ∧
        ((∀ other, (place.get t).files.get? other = files.get? other) ↔
          ∃ content, files.get? name = some content ∧ (overwrites named = true → content = []))) ∧
    ∀ fault t, build host place path named s = (.error fault, t) → t = s ∨
        Rejected host.codecs named fault := by
  intro files
  constructor
  · intro name fault hfree hname hrejected
    obtain ⟨t, hbuild, hfiles⟩ := files_of_rejected host hfree hname hrejected
    refine ⟨t, hbuild, hfiles, ?_⟩
    rw [← leftOf_eq_iff]
    constructor
    · intro hsame
      have hleft := hfiles name
      rw [if_pos rfl] at hleft
      exact hleft.symm.trans (hsame name)
    · intro hleft other
      rw [hfiles other]
      split
      · next hother => rw [hother, hleft]
      · rfl
  · exact fun fault t h => rejected_of_build h

/-- A file is to be emptied and written in a character set that there is not. -/
def misspelt : Table Value :=
  ⟨[("overwrite", .bool true), ("encoding", .text "utf-9")]⟩

/-- A misspelt character set costs the content of the file, and makes the file where there was
none. -/
theorem files_of_build_misspelt :
    (PlainHost.shelf.get PlainHost.kept).locate "log" = .ok "log" ∧
    Rejected PlainHost.shelfHost.codecs misspelt (.unknownCharset "utf-9") ∧
    (∃ t, build PlainHost.shelfHost PlainHost.shelf "log" misspelt PlainHost.kept =
        (.error (.unknownCharset "utf-9"), t) ∧
      PlainHost.kept.files.get? "log" = some [107] ∧ t.files.get? "log" = some []) ∧
    ∃ t, build PlainHost.shelfHost PlainHost.shelf "new" misspelt PlainHost.kept =
        (.error (.unknownCharset "utf-9"), t) ∧
      PlainHost.kept.files.get? "new" = none ∧ t.files.get? "new" = some [] := by
  have hfree : ∀ key ∈ misspelt.names, key ∉ placed := by decide
  have hrejected : Rejected PlainHost.shelfHost.codecs misspelt (.unknownCharset "utf-9") :=
    .charset (by decide) (by decide) (by rfl)
  have hfiles := fun path hpath =>
    (files_of_build PlainHost.shelfHost PlainHost.shelf path misspelt PlainHost.kept).1 path
      _ hfree hpath hrejected
  obtain ⟨t, hbuild, hleft, -⟩ := hfiles "log" (by rfl)
  obtain ⟨t', hbuild', hleft', -⟩ := hfiles "new" (by rfl)
  exact ⟨by rfl, hrejected, ⟨t, hbuild, rfl, hleft "log"⟩, t', hbuild', rfl, hleft' "new"⟩

end FileLog

end RequestLog
