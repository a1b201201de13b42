import Mathlib.Data.List.Lex
import Mathlib.Data.List.Nodup
import ServiceHost.Proofs.KeyPairSettings

/-!
# Faults of validation

Validation looks at four settings: the two context paths and the two lists of connectors. What it
reports is determined by three things, and each of them has its section here.

* What is a fault: `ServerConfig.relative_mem_faults_iff` and `ServerConfig.missing_mem_faults_iff`
  say which faults a list holds, and `ServerConfig.faults_eq_nil_iff` when it holds none.
* Where a fault stands: the list is strictly increasing in `ValidationError.rank`
  (`ServerConfig.faults_increasing`), so that its members determine it.
* What a fault is about: its `ValidationError.setting`, whose name is the field of the fault. Names
  tell settings apart (`Setting.name_injective`), and whether a fault is reported depends on nothing
  but the value of its setting (`ServerConfig.mem_faults_congr`).
-/

namespace ServiceHost

/-! ### What is a fault -/

/-- The paths that are accepted as context paths: the empty one and those that begin with a
slash. -/
def IsContextPath (path : String) : Prop :=
  path = "" ∨ ∃ rest, path = "/" ++ rest

theorem isContextPath_iff {path : String} :
    IsContextPath path ↔ path.toList.head?.all (· == '/') = true := by
  constructor
  · rintro (rfl | ⟨rest, rfl⟩)
    · rfl
    · rw [String.toList_append]
      rfl
  · intro hall
    cases hchars : path.toList with
    | nil => exact Or.inl (String.toList_eq_nil_iff.mp hchars)
    | cons c chars =>
      have hc : c = '/' := by simpa [hchars] using hall
      refine Or.inr ⟨String.ofList chars, String.toList_injective ?_⟩
      simp [hchars, hc]

theorem mem_contextPathFaults_iff {surface : Surface} {path : String} {fault : ValidationError} :
    fault ∈ contextPathFaults surface path ↔
      ¬ IsContextPath path ∧ fault = .relativeContextPath surface path := by
  rw [contextPathFaults, isContextPath_iff]
  split
  · next hall => simp [hall]
  · next hall => simp [hall]

/-- A file of a key pair is missing where its path is absent and where it is empty. -/
theorem ConnectorSpec.lacks_iff {s : ConnectorSpec} {file : TlsFile} :
    s.lacks file = true ↔
      s.kind = .https ∧ (s.tlsFile file = none ∨ s.tlsFile file = some "") := by
  cases hfile : s.tlsFile file <;> simp [lacks, hfile]

namespace ServerConfig

/-- The context path of a surface. -/
def contextPath (c : ServerConfig) : Surface → String
  | .application => c.applicationContextPath
  | .admin => c.adminContextPath

/-- The settings that validation accepts. -/
structure Valid (c : ServerConfig) : Prop where
  contextPath : ∀ surface, IsContextPath (c.contextPath surface)
  /-- An https connector has both files. -/
  tlsFile : ∀ surface, ∀ spec ∈ c.specs surface, spec.kind = .https →
    ∀ file, ∃ path, spec.tlsFile file = some path ∧ path ≠ ""

theorem relative_mem_faults_iff {c : ServerConfig} {surface : Surface} {value : String} :
    .relativeContextPath surface value ∈ c.faults ↔
      value = c.contextPath surface ∧ ¬ IsContextPath value := by
  -- the lists of connectors have faults of another kind, so that two parts are left to look at
  have hlist : ∀ surface' specs, ValidationError.relativeContextPath surface value ∉
      connectorFaults surface' 0 specs := by
    intro surface' specs hmem
    obtain ⟨_, _, _, _, _, heq⟩ := mem_connectorFaults_iff.mp hmem
    cases heq
  unfold faults
  simp only [List.mem_append, hlist, or_false, mem_contextPathFaults_iff,
    ValidationError.relativeContextPath.injEq]
  cases surface <;> grind [contextPath]

theorem missing_mem_faults_iff {c : ServerConfig} {surface : Surface} {index : ℕ}
    {file : TlsFile} :
    .missingTlsFile surface index file ∈ c.faults ↔
      ∃ spec, (c.specs surface)[index]? = some spec ∧ spec.kind = .https ∧
        (spec.tlsFile file = none ∨ spec.tlsFile file = some "") := by
  simp only [mem_faults_iff, ConnectorSpec.lacks_iff]

/-- **Completeness.** There is no fault exactly where the settings are valid. -/
theorem faults_eq_nil_iff {c : ServerConfig} : c.faults = [] ↔ c.Valid := by
  rw [List.eq_nil_iff_forall_not_mem]
  constructor
  · intro hnone
    refine ⟨fun surface => ?_, fun surface spec hspec hhttps file => ?_⟩
    · by_contra hrelative
      exact hnone _ (relative_mem_faults_iff.mpr ⟨rfl, hrelative⟩)
    · -- a file that is missing would be a fault at the index of its connector
      obtain ⟨index, hindex⟩ := List.getElem?_of_mem hspec
      cases hfile : spec.tlsFile file with
      | none =>
        exact absurd (missing_mem_faults_iff.mpr ⟨spec, hindex, hhttps, Or.inl hfile⟩) (hnone _)
      | some path =>
        refine ⟨path, rfl, ?_⟩
        rintro rfl
        exact hnone _ (missing_mem_faults_iff.mpr ⟨spec, hindex, hhttps, Or.inr hfile⟩)
  · intro hvalid fault hfault
    -- backwards each kind of fault goes against the clause of its setting
    cases fault with
    | relativeContextPath surface value =>
      obtain ⟨rfl, hrelative⟩ := relative_mem_faults_iff.mp hfault
      exact hrelative (hvalid.contextPath surface)
    | missingTlsFile surface index file =>
      obtain ⟨spec, hspec, hhttps, hmissing⟩ := missing_mem_faults_iff.mp hfault
      obtain ⟨path, hpath, hne⟩ :=
        hvalid.tlsFile surface spec (List.mem_of_getElem? hspec) hhttps file
      rw [hpath] at hmissing
      exact hmissing.elim nofun fun hempty => hne (Option.some.inj hempty)

end ServerConfig

/-! ### Where a fault stands -/

/-- The application is looked at before its administration. -/
def Surface.rank : Surface → ℕ
  | .application => 0
  | .admin => 1

/-- The certificate file is looked at before the key file. -/
def TlsFile.rank : TlsFile → ℕ
  | .cert => 0
  | .key => 1

namespace ValidationError

/-- The part of the list of faults in which a fault stands. The first two are of the context paths,
the others of the lists of connectors. -/
def part : ValidationError → ℕ
  | .relativeContextPath surface _ => surface.rank
  | .missingTlsFile surface _ _ => 2 + surface.rank

/-- The rank of a fault, to be compared from the left: its part and, within a list of connectors,
the index and then the file. -/
def rank (fault : ValidationError) : List ℕ :=
  fault.part ::
    match fault with
    | .relativeContextPath _ _ => []
    | .missingTlsFile _ index missing => [index, missing.rank]

theorem rank_lt_of_part {fault other : ValidationError} (h : fault.part < other.part) :
    fault.rank < other.rank :=
  List.cons_lt_cons_iff.mpr (Or.inl h)

theorem rank_lt_of_index {surface : Surface} {index index' : ℕ} {file file' : TlsFile}
    (h : index < index') :
    (missingTlsFile surface index file).rank < (missingTlsFile surface index' file').rank :=
  List.cons_lt_cons_iff.mpr (Or.inr ⟨rfl, List.cons_lt_cons_iff.mpr (Or.inl h)⟩)

theorem rank_lt_of_file {surface : Surface} {index : ℕ} {file file' : TlsFile}
    (h : file.rank < file'.rank) :
    (missingTlsFile surface index file).rank < (missingTlsFile surface index file').rank :=
  List.cons_lt_cons_iff.mpr (Or.inr ⟨rfl, List.cons_lt_cons_iff.mpr
    (Or.inr ⟨rfl, List.cons_lt_cons_iff.mpr (Or.inl h)⟩)⟩)

/-- A list of faults in the order of their ranks, none of them twice. -/
def Increasing (faults : List ValidationError) : Prop :=
  faults.Pairwise fun fault other => fault.rank < other.rank

namespace Increasing

variable {faults others : List ValidationError}

theorem nodup (h : Increasing faults) : faults.Nodup := by
  refine h.imp fun hlt => ?_
  rintro rfl
  exact lt_irrefl _ hlt

/-- The members of an increasing list determine it. -/
theorem eq_of_mem_iff (h : Increasing faults) (hothers : Increasing others)
    (hmem : ∀ fault, fault ∈ faults ↔ fault ∈ others) : faults = others :=
  List.Perm.eq_of_pairwise (fun _ _ _ _ hlt hgt => absurd hgt (lt_asymm hlt)) h hothers
    ((List.perm_ext_iff_of_nodup h.nodup hothers.nodup).mpr hmem)

end Increasing

end ValidationError

open ValidationError (Increasing rank_lt_of_part rank_lt_of_index rank_lt_of_file)

theorem contextPathFaults_increasing (surface : Surface) (path : String) :
    Increasing (contextPathFaults surface path) := by
  unfold contextPathFaults
  split
  · exact List.Pairwise.nil
  · exact List.pairwise_singleton _ _

theorem ConnectorSpec.faults_increasing (surface : Surface) (index : ℕ) (s : ConnectorSpec) :
    Increasing (s.faults surface index) := by
  -- a connector has the faults of the files that it lacks, out of two in their order
  have hfiles : [TlsFile.cert, .key].Pairwise fun file other => file.rank < other.rank := by decide
  exact (hfiles.filter _).map _ fun _ _ hlt => rank_lt_of_file hlt

theorem connectorFaults_increasing (surface : Surface) (start : ℕ) (specs : List ConnectorSpec) :
    Increasing (connectorFaults surface start specs) := by
  induction specs generalizing start with
  | nil => exact List.Pairwise.nil
  | cons s rest ih =>
    refine List.pairwise_append.mpr ⟨s.faults_increasing surface start, ih (start + 1), ?_⟩
    -- the indices of the rest are counted from the next one
    intro fault hfault other hother
    obtain ⟨file, -, rfl⟩ := List.mem_map.mp hfault
    obtain ⟨index, spec, file', -, -, rfl⟩ := mem_connectorFaults_iff.mp hother
    exact rank_lt_of_index (by omega)

/-- **Order.** Faults are listed in the order of their ranks. -/
theorem ServerConfig.faults_increasing (c : ServerConfig) : Increasing c.faults := by
  -- each of the four pieces of the list is one part, and their parts ascend
  have hpath : ∀ surface path, ∀ fault ∈ contextPathFaults surface path,
      fault.part = surface.rank := by
    intro surface path fault hfault
    obtain ⟨-, rfl⟩ := mem_contextPathFaults_iff.mp hfault
    rfl
  have hlist : ∀ surface specs, ∀ fault ∈ connectorFaults surface 0 specs,
      fault.part = 2 + surface.rank := by
    intro surface specs fault hfault
    obtain ⟨index, spec, file, -, -, rfl⟩ := mem_connectorFaults_iff.mp hfault
    rfl
  unfold ServerConfig.faults
  refine List.pairwise_append.mpr ⟨List.pairwise_append.mpr ⟨List.pairwise_append.mpr
    ⟨contextPathFaults_increasing _ _, contextPathFaults_increasing _ _, ?_⟩,
    connectorFaults_increasing _ _ _, ?_⟩, connectorFaults_increasing _ _ _, ?_⟩
  -- a fault of one part stands before those of the parts behind it
  all_goals
    intro fault hfault other hother
    refine rank_lt_of_part ?_
    grind [Surface.rank]

/-! ### What a fault is about -/

/-- A setting that validation looks at. -/
inductive Setting where
  | contextPath (surface : Surface)
  | connector (surface : Surface) (index : ℕ)
  deriving DecidableEq, Repr

/-- The name of the context path of a surface in settings. -/
def Surface.contextPathName : Surface → String
  | .application => "server.application_context_path"
  | .admin => "server.admin_context_path"

namespace Setting

/-- The name of a setting. A connector is named by its list and its index there. -/
def name : Setting → String
  | .contextPath surface => surface.contextPathName
  | .connector surface index => s!"{surface.connectorsName}[{index}]"

/-- The name of the setting or of the list in which it stands. -/
def stem : Setting → String
  | .contextPath surface => surface.contextPathName
  | .connector surface _ => surface.connectorsName

/-- The first characters of a name are those of its stem. There are 23 in the shortest stem, and no
two stems agree in as many. -/
theorem take_name (setting : Setting) :
    setting.name.toList.take 23 = setting.stem.toList.take 23 := by
  cases setting with
  | contextPath surface => rfl
  | connector surface index =>
    have hname : (connector surface index).name =
        surface.connectorsName ++ ("[" ++ toString index ++ "]") := by
      simp only [name, toString, String.append_assoc]
    rw [hname, String.toList_append]
    -- the brackets and the index come behind the first 23 characters
    refine List.take_append_of_le_length ?_
    cases surface <;> decide

/-- The stems tell the two paths and the two lists apart. -/
theorem eq_of_take_stem {setting other : Setting}
    (h : setting.stem.toList.take 23 = other.stem.toList.take 23) :
    (∃ surface, setting = .contextPath surface ∧ other = .contextPath surface) ∨
      ∃ surface index index', setting = .connector surface index ∧
        other = .connector surface index' := by
  -- there are four stems, and where two of them differ the beginnings can be compared
  rcases setting with surface | ⟨surface, index⟩ <;>
    rcases other with surface' | ⟨surface', index'⟩ <;>
    cases surface <;> cases surface' <;>
    simp only [stem, Surface.contextPathName, Surface.connectorsName] at h <;>
    first
    | exact Or.inl ⟨_, rfl, rfl⟩
    | exact Or.inr ⟨_, _, _, rfl, rfl⟩
    | exact absurd h (by decide)

/-- **Names of settings** tell them apart. -/
theorem name_injective : Function.Injective name := by
  intro setting other hname
  have hstem : setting.stem.toList.take 23 = other.stem.toList.take 23 := by
    rw [← take_name, ← take_name, hname]
  rcases eq_of_take_stem hstem with ⟨surface, rfl, rfl⟩ | ⟨surface, index, index', rfl, rfl⟩
  · rfl
  · -- both names are of the same list, and the index can be read off what follows
    simp only [name, toString, String.append_left_inj, String.append_right_inj] at hname
    have hread := congrArg (fun text => Nat.ofDigitChars 10 text.toList 0) hname
    have hindex : index = index' := by
      simpa [Nat.repr, Nat.ofDigitChars_ten_toDigits] using hread
    rw [hindex]

end Setting

theorem TlsFile.name_injective : Function.Injective TlsFile.name := by
  intro file other hname
  cases file <;> cases other <;> first | rfl | exact absurd hname (by decide)

namespace ValidationError

/-- The setting that a fault is about. -/
def setting : ValidationError → Setting
  | .missingTlsFile surface index _ => .connector surface index
  | .relativeContextPath surface _ => .contextPath surface

/-- What a fault tells besides its setting: the missing file or the refused path. -/
def detail : ValidationError → String
  | .missingTlsFile _ _ missing => missing.name
  | .relativeContextPath _ value => value

theorem field_eq_name (fault : ValidationError) : fault.field = fault.setting.name := by
  rcases fault with ⟨surface, index, missing⟩ | ⟨surface, value⟩ <;> cases surface <;> rfl

/-- **Texts of faults** tell them apart. -/
theorem entry_injective :
    Function.Injective fun fault : ValidationError => (fault.field, fault.detail) := by
  intro fault other heq
  obtain ⟨hfield, hdetail⟩ := Prod.mk.inj heq
  rw [field_eq_name, field_eq_name] at hfield
  -- the field tells the setting, and the setting tells the kind of the fault
  have hsetting := Setting.name_injective hfield
  cases fault with
  | missingTlsFile surface index missing =>
    cases other with
    | missingTlsFile surface' index' missing' =>
      obtain ⟨rfl, rfl⟩ := Setting.connector.inj hsetting
      obtain rfl := TlsFile.name_injective hdetail
      rfl
    | relativeContextPath surface' value' => cases hsetting
  | relativeContextPath surface value =>
    cases other with
    | missingTlsFile surface' index' missing' => cases hsetting
    | relativeContextPath surface' value' =>
      obtain rfl := Setting.contextPath.inj hsetting
      obtain rfl : value = value' := hdetail
      rfl

end ValidationError

namespace ServerConfig

/-- Two configurations have the same value of a setting. -/
def AgreesAt (c c' : ServerConfig) : Setting → Prop
  | .contextPath surface => c.contextPath surface = c'.contextPath surface
  | .connector surface index => (c.specs surface)[index]? = (c'.specs surface)[index]?

variable {c c' : ServerConfig}

/-- **Independence.** Whether a fault is reported depends on the value of its setting alone. -/
theorem mem_faults_congr {fault : ValidationError} (h : c.AgreesAt c' fault.setting) :
    fault ∈ c.faults ↔ fault ∈ c'.faults := by
  cases fault with
  | missingTlsFile surface index file =>
    have hspec : (c.specs surface)[index]? = (c'.specs surface)[index]? := h
    rw [missing_mem_faults_iff, missing_mem_faults_iff, hspec]
  | relativeContextPath surface value =>
    have hpath : c.contextPath surface = c'.contextPath surface := h
    rw [relative_mem_faults_iff, relative_mem_faults_iff, hpath]

/-- **A change of one setting** leaves the faults of all others as they are, and in their order. -/
theorem filter_faults_congr {changed : Setting}
    (h : ∀ setting, setting ≠ changed → c.AgreesAt c' setting) :
    c.faults.filter (·.setting ≠ changed) = c'.faults.filter (·.setting ≠ changed) := by
  -- the order is that of the ranks on both sides, so that it is enough to compare the members
  refine Increasing.eq_of_mem_iff (c.faults_increasing.filter _) (c'.faults_increasing.filter _)
    fun fault => ?_
  simp only [List.mem_filter, decide_eq_true_eq]
  exact and_congr_left fun hother => mem_faults_congr (h fault.setting hother)

/-- What validation reports of settings: the faults that there are, each of them once, in their
order and under the name of the setting that is at fault. -/
structure Reports (c : ServerConfig) (faults : List ValidationError) : Prop where
  contextPath : ∀ surface value, .relativeContextPath surface value ∈ faults ↔
    value = c.contextPath surface ∧ ¬ IsContextPath value
  tlsFile : ∀ surface index file, .missingTlsFile surface index file ∈ faults ↔
    ∃ spec, (c.specs surface)[index]? = some spec ∧ spec.kind = .https ∧
      (spec.tlsFile file = none ∨ spec.tlsFile file = some "")
  named : ∀ fault ∈ faults, fault.field = fault.setting.name
  increasing : Increasing faults
  once : (faults.map fun fault => (fault.field, fault.detail)).Nodup

theorem reports_faults (c : ServerConfig) : c.Reports c.faults where
  contextPath _ _ := relative_mem_faults_iff
  tlsFile _ _ _ := missing_mem_faults_iff
  named fault _ := fault.field_eq_name
  increasing := c.faults_increasing
  once := c.faults_increasing.nodup.map ValidationError.entry_injective

end ServerConfig

namespace Configuration

/-- The faults that validation lists, which are none where it accepts the configuration. -/
def reported (c : Configuration) : List ValidationError :=
  match c.validate with
  | .ok () => []
  | .error faults => faults

theorem reported_eq (c : Configuration) : c.reported = c.server.faults := by
  unfold reported validate
  cases c.server.faults <;> rfl

/-- **Validation reports every fault.** A configuration is accepted exactly if each context path is
empty or begins with a slash and each https connector has both files. Otherwise validation lists the
faults that there are: one for each context path that is refused, with its value, and one for each
file that an https connector lacks, with the list, the index there and the file. They stand in the
order of the settings, and no two of them have the same text. A change of one setting, whatever it
is, leaves what is listed about all others as it is. -/
theorem validate_reports (c : Configuration) :
    (c.validate = .ok () ↔ c.server.Valid) ∧
      (¬ c.server.Valid → ∃ faults, c.validate = .error faults ∧ faults ≠ [] ∧
        c.server.Reports faults) ∧
      ∀ (c' : Configuration) (changed : Setting),
        (∀ setting, setting ≠ changed → c.server.AgreesAt c'.server setting) →
          c.reported.filter (·.setting ≠ changed) = c'.reported.filter (·.setting ≠ changed) := by
  refine ⟨?_, fun hinvalid => ⟨c.server.faults, ?_, ?_, c.server.reports_faults⟩, ?_⟩
  · rw [← ServerConfig.faults_eq_nil_iff, validate]
    cases c.server.faults <;> simp
  · have hne := mt ServerConfig.faults_eq_nil_iff.mp hinvalid
    rw [validate]
    cases hfaults : c.server.faults with
    | nil => exact absurd hfaults hne
    | cons fault rest => rfl
  · exact mt ServerConfig.faults_eq_nil_iff.mp hinvalid
  · intro c' changed hagree
    rw [reported_eq, reported_eq]
    exact ServerConfig.filter_faults_congr hagree

end Configuration

/-- A configuration with a relative context path and, in each list, an https connector that lacks
files next to a plain one. -/
def faultyConfig : Configuration where
  server :=
    { applicationContextPath := "api"
      applicationConnectors :=
        [.http ":8080", { kind := .https, address := ":8443", certFile := some "" }]
      adminConnectors := [.https ":8444" "cert.pem" "", .http ":8081"] }

/-- The same configuration with both files of the https connector of the application. -/
def repairedConfig : Configuration where
  server :=
    { faultyConfig.server with
      applicationConnectors := [.http ":8080", .https ":8443" "cert.pem" "key.pem"] }

/-- The faults of the one configuration, and what the change of its connector leaves of them. -/
theorem Configuration.validate_reports_faulty :
    ¬ faultyConfig.server.Valid ∧
      faultyConfig.validate = .error [.relativeContextPath .application "api",
        .missingTlsFile .application 1 .cert, .missingTlsFile .application 1 .key,
        .missingTlsFile .admin 0 .key] ∧
      faultyConfig.server.Reports faultyConfig.reported ∧
      faultyConfig.reported.filter (·.setting ≠ .connector .application 1) =
        [.relativeContextPath .application "api", .missingTlsFile .admin 0 .key] ∧
      repairedConfig.reported.filter (·.setting ≠ .connector .application 1) =
        [.relativeContextPath .application "api", .missingTlsFile .admin 0 .key] := by
  obtain ⟨hvalid, hinvalid, hchange⟩ := Configuration.validate_reports faultyConfig
  have hfaults : faultyConfig.validate = .error faultyConfig.reported := by decide
  have hrefused : ¬ faultyConfig.server.Valid := by
    rw [← hvalid, hfaults]
    exact nofun
  -- the two configurations differ at one connector, and there alone
  have hagree : ∀ setting, setting ≠ .connector .application 1 →
      faultyConfig.server.AgreesAt repairedConfig.server setting := by
    intro setting hne
    match setting with
    | .contextPath surface => cases surface <;> rfl
    | .connector .admin index => rfl
    | .connector .application 0 => rfl
    | .connector .application 1 => exact absurd rfl hne
    | .connector .application (index + 2) => rfl
  refine ⟨hrefused, by decide, ?_, by decide, ?_⟩
  · obtain ⟨faults, herror, -, hreports⟩ := hinvalid hrefused
    rw [hfaults] at herror
    rwa [Except.error.inj herror]
  · rw [← hchange repairedConfig _ hagree]
    decide

end ServiceHost
