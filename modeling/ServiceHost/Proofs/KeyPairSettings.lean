import ServiceHost.Proofs.ConnectorStop
import ServiceHost.Proofs.ServerOrder
import ServiceHost.Server.Factory

/-!
# Settings of key pairs

Two checks look at the settings of a key pair. Validation goes through the lists of both surfaces
and asks of every https connector whether the path of a file is absent or empty. A start of a
connector asks, of the certificate file first and then of the key file, whether the path is absent;
it knows neither the list nor the index of its specification, since the server has all connectors in
one list.

* `ConnectorSpec.keyPair_eq_notConfigured_iff`: whatever the files hold, a load finds a path unset
  exactly where `ConnectorSpec.unset?` does, so that validation, which is stricter, has a fault
  there.
* `ServerConfig.mem_faults_iff` places these faults: one for every specification and file that
  validation misses, with the list and the index of the specification.
* `Activity.Settled` is the invariant of starts: one that is over for want of a path is of a
  connector whose specification has the path unset.
* `Configuration.validate_settles_key_pairs` puts the two checks together.
-/

namespace ServiceHost

/-! ### Loads that find a path unset -/

/-- Where a sequence of two steps fails: in the first, or in the second after the first. -/
theorem error_of_bind {ε α β : Type} {first : Except ε α} {next : α → Except ε β} {e : ε}
    (h : first >>= next = .error e) :
    first = .error e ∨ ∃ a, first = .ok a ∧ next a = .error e := by
  cases first with
  | error e' =>
    have heq : e' = e := Except.error.inj h
    exact Or.inl (by rw [heq])
  | ok a => exact Or.inr ⟨a, rfl, h⟩

namespace KeyPair

theorem sections_ne_notConfigured (files : FileTree) (path : String) (file : TlsFile) :
    sections files path ≠ .error (.notConfigured file) := by
  unfold sections
  split <;> exact nofun

theorem loadCertificates_ne_notConfigured (files : FileTree) (path : String) (file : TlsFile) :
    loadCertificates files path ≠ .error (.notConfigured file) := by
  intro hload
  rcases error_of_bind hload with hsections | ⟨⟨found, e⟩, -, hfound⟩
  · exact sections_ne_notConfigured files path file hsections
  · -- what is missing in the sections is reported as such, not as a path
    simp only at hfound
    split at hfound <;> cases hfound

theorem loadPrivateKey_ne_notConfigured (files : FileTree) (path : String) (file : TlsFile) :
    loadPrivateKey files path ≠ .error (.notConfigured file) := by
  intro hload
  rcases error_of_bind hload with hsections | ⟨⟨found, e⟩, -, hfound⟩
  · exact sections_ne_notConfigured files path file hsections
  · simp only at hfound
    split at hfound <;> cases hfound

/-- Paths that are set are read: a load of them may fail, but not for want of a path. -/
theorem load_ne_notConfigured (files : FileTree) (certFile keyFile : String) (file : TlsFile) :
    load files certFile keyFile ≠ .error (.notConfigured file) := by
  intro hload
  -- a load reads the certificates, then the key, and then looks whether they match
  rcases error_of_bind hload with hcert | ⟨certificates, -, hrest⟩
  · exact loadCertificates_ne_notConfigured files certFile file hcert
  rcases error_of_bind hrest with hkey | ⟨⟨form, key⟩, -, hmatch⟩
  · exact loadPrivateKey_ne_notConfigured files keyFile file hkey
  · simp only at hmatch
    split at hmatch <;> cases hmatch

end KeyPair

namespace ConnectorSpec

/-- The first file of its key pair for which an https connector gives no path, the certificate file
before the key file. -/
def unset? (s : ConnectorSpec) : Option TlsFile :=
  match s.kind with
  | .http => none
  | .https => [TlsFile.cert, .key].find? fun file => (s.tlsFile file).isNone

/-- **Loads find what is unset.** A load fails for want of a path exactly where one is unset, and it
is the first one; the files have no part in it. -/
theorem keyPair_eq_notConfigured_iff (files : FileTree) (s : ConnectorSpec) (file : TlsFile) :
    s.keyPair files = .error (.notConfigured file) ↔ s.unset? = some file := by
  obtain ⟨kind, address, certFile, keyFile⟩ := s
  unfold keyPair unset?
  cases kind with
  -- a plain connector loads nothing and has nothing unset
  | http => exact ⟨nofun, nofun⟩
  | https =>
    cases certFile with
    | none => simp [tlsFile]
    | some cert =>
      cases keyFile with
      | none => simp [tlsFile]
      | some key =>
        -- both paths are set, so that only the load itself is left to fail
        have hload := KeyPair.load_ne_notConfigured files cert key file
        refine ⟨fun hpair => absurd ?_ hload, fun hunset => ?_⟩
        · cases hresult : KeyPair.load files cert key with
          | error e =>
            simp only [hresult, Except.map, Except.error.injEq] at hpair
            rw [hpair]
          | ok pair =>
            simp only [hresult, Except.map] at hpair
            cases hpair
        · simp [tlsFile] at hunset

/-- Validation misses a path that is unset. -/
theorem lacks_of_unset? {s : ConnectorSpec} {file : TlsFile} (h : s.unset? = some file) :
    s.lacks file = true := by
  obtain ⟨kind, address, certFile, keyFile⟩ := s
  unfold unset? at h
  cases kind with
  | http => cases h
  | https =>
    -- validation takes an empty path for missing, too; an absent one is missing for both
    have hnone := List.find?_some h
    simp only [Option.isNone_iff_eq_none] at hnone
    simp [lacks, hnone]

end ConnectorSpec

/-! ### Faults and their places -/

/-- The faults of a list of connectors are those of its specifications, each at its index. -/
theorem mem_connectorFaults_iff {surface : Surface} {start : ℕ} {specs : List ConnectorSpec}
    {fault : ValidationError} :
    fault ∈ connectorFaults surface start specs ↔
      ∃ index spec file, specs[index]? = some spec ∧ spec.lacks file = true ∧
        fault = .missingTlsFile surface (start + index) file := by
  induction specs generalizing start with
  | nil => exact ⟨nofun, fun ⟨index, spec, file, hspec, _⟩ => by simp at hspec⟩
  | cons s rest ih =>
    rw [connectorFaults, List.mem_append, ih]
    constructor
    · rintro (hfirst | ⟨index, spec, file, hspec, hlacks, rfl⟩)
      · obtain ⟨file, hfile, rfl⟩ := List.mem_map.mp hfirst
        exact ⟨0, s, file, rfl, (List.mem_filter.mp hfile).2, rfl⟩
      · -- an index of the rest is one less than in the whole list
        refine ⟨index + 1, spec, file, hspec, hlacks, ?_⟩
        rw [Nat.add_right_comm, Nat.add_assoc]
    · rintro ⟨index, spec, file, hspec, hlacks, rfl⟩
      cases index with
      | zero =>
        obtain rfl : s = spec := Option.some.inj hspec
        refine Or.inl (List.mem_map.mpr ⟨file, List.mem_filter.mpr ⟨?_, hlacks⟩, rfl⟩)
        cases file <;> decide
      | succ index =>
        refine Or.inr ⟨index, spec, file, hspec, hlacks, ?_⟩
        rw [Nat.add_right_comm, Nat.add_assoc]

theorem not_mem_contextPathFaults {surface surface' : Surface} {path : String} {index : ℕ}
    {file : TlsFile} :
    ValidationError.missingTlsFile surface index file ∉ contextPathFaults surface' path := by
  unfold contextPathFaults
  split <;> simp

namespace ServerConfig

/-- The specifications of a surface. -/
def specs (c : ServerConfig) : Surface → List ConnectorSpec
  | .application => c.applicationConnectors
  | .admin => c.adminConnectors

/-- Where the connector of the specification at an index of a surface stands among the connectors of
the server: those of the application come first. -/
def place (c : ServerConfig) : Surface → ℕ → ℕ
  | .application, index => index
  | .admin, index => c.applicationConnectors.length + index

/-- **Faults are placed.** Validation has a fault for a list, an index and a file exactly where the
specification there lacks the file. -/
theorem mem_faults_iff {c : ServerConfig} {surface : Surface} {index : ℕ} {file : TlsFile} :
    .missingTlsFile surface index file ∈ c.faults ↔
      ∃ spec, (c.specs surface)[index]? = some spec ∧ spec.lacks file = true := by
  -- the faults of a list name its surface, and its indices are counted from zero
  have hlist : ∀ surface' specs,
      ValidationError.missingTlsFile surface index file ∈ connectorFaults surface' 0 specs ↔
        surface = surface' ∧ ∃ spec, specs[index]? = some spec ∧ spec.lacks file = true := by
    intro surface' specs
    rw [mem_connectorFaults_iff]
    constructor
    · rintro ⟨index', spec, file', hspec, hlacks, heq⟩
      obtain ⟨rfl, rfl, rfl⟩ := ValidationError.missingTlsFile.inj heq
      rw [Nat.zero_add]
      exact ⟨rfl, spec, hspec, hlacks⟩
    · rintro ⟨rfl, spec, hspec, hlacks⟩
      exact ⟨index, spec, file, hspec, hlacks, by rw [Nat.zero_add]⟩
  -- the faults of the context paths name no file
  unfold faults
  simp only [List.mem_append, not_mem_contextPathFaults, false_or, hlist]
  cases surface <;> simp [specs]

end ServerConfig

/-- The name of the list of connectors of a surface in settings. -/
def Surface.connectorsName : Surface → String
  | .application => "server.application_connectors"
  | .admin => "server.admin_connectors"

/-- The text of a fault of a connector tells the list, the index and the file. -/
theorem ValidationError.message_missingTlsFile (surface : Surface) (index : ℕ) (file : TlsFile) :
    (missingTlsFile surface index file).message =
      s!"{surface.connectorsName}[{index}]: https connector requires {file.name}" := by
  have hfield : (missingTlsFile surface index file).field =
      surface.connectorsName ++ "[" ++ toString index ++ "]" := by
    cases surface <;> rfl
  have hmessage : (missingTlsFile surface index file).message =
      (missingTlsFile surface index file).field ++ ": https connector requires " ++ file.name := rfl
  -- the bracket that closes the index belongs to the field
  have hend : "]: https connector requires " = "]" ++ ": https connector requires " := rfl
  rw [hmessage, hfield, hend]
  simp only [toString, String.append_assoc]

/-- A fault is enough for validation to refuse a configuration, and it is listed. -/
theorem Configuration.validate_of_fault {c : Configuration} {fault : ValidationError}
    (h : fault ∈ c.server.faults) : ∃ faults, c.validate = .error faults ∧ fault ∈ faults := by
  refine ⟨c.server.faults, ?_, h⟩
  unfold Configuration.validate
  cases hfaults : c.server.faults with
  | nil => rw [hfaults] at h; cases h
  | cons first rest => rfl

/-! ### Starts that find a path unset -/

namespace Connector

variable {R : Type}

/-- A run that is over because a path is unset. -/
def unsetRun (file : TlsFile) : Run := .finished (.error (.tls (.notConfigured file)))

theorem spec_accept (c : Connector R) (watcher : Watcher) (address : SocketAddress)
    (backoff : Backoff) (outcome : AcceptOutcome) :
    (c.accept watcher address backoff outcome).1.spec = c.spec := by
  cases outcome <;> rfl

theorem spec_advance (c : Connector R) (outside : Surroundings) (run : Run) :
    (c.advance outside run).1.spec = c.spec := by
  -- a connector is only ever marked and given its listener
  cases run with
  | entering => exact spec_enter c
  | preparing watcher => exact spec_prepare c watcher outside.files
  | listening watcher lookedUp =>
    rw [advance]
    split
    · rfl
    · exact spec_listen c watcher outside.bound
  | serving watcher address backoff pause =>
    rw [advance]
    unfold serveTurn
    split
    · rfl
    · cases pause with
      | some pause => rfl
      | none => exact spec_accept c watcher address backoff outside.accepted
  | finished result => rfl

/-- **One step.** A step after which a run is over for want of a path is the load of the key pair,
of a specification that has the path unset, or the run was over before. -/
theorem unset_of_advance {c : Connector R} {outside : Surroundings} {run : Run} {file : TlsFile}
    (h : (c.advance outside run).2.1 = unsetRun file) :
    run = unsetRun file ∨ c.spec.unset? = some file := by
  cases run with
  | entering =>
    -- the check ends a run well or not at all
    have hadvance : (c.advance outside .entering).2.1 = c.enter.2 := rfl
    rw [hadvance, enter] at h
    split at h <;> cases h
  -- this step alone loads the key pair
  | preparing watcher =>
    rw [advance, prepare] at h
    split at h
    · next e hload =>
      have he : e = .notConfigured file := by
        injection h with h
        injection h with h
        injection h
      rw [he] at hload
      exact Or.inr ((c.spec.keyPair_eq_notConfigured_iff outside.files file).mp hload)
    · cases h
    · cases h
  -- the steps after it end with errors of their own, or well
  | listening watcher lookedUp =>
    rw [advance] at h
    split at h
    · cases h
    · cases hbound : outside.bound <;> rw [hbound] at h <;> cases h
  | serving watcher address backoff pause =>
    rw [advance] at h
    unfold serveTurn at h
    split at h
    · cases h
    · cases pause with
      | some pause => cases h
      | none => cases haccepted : outside.accepted <;> simp only [haccepted] at h <;> cases h
  | finished result => exact Or.inl h

/-- A run of an open connector that has a path unset is over with its second step. -/
theorem advance_preparing_of_unset {c : Connector R} {file : TlsFile}
    (h : c.spec.unset? = some file) (outside : Surroundings) (watcher : Watcher) :
    (c.advance outside (.preparing watcher)).2.1 = unsetRun file := by
  rw [advance, prepare, (c.spec.keyPair_eq_notConfigured_iff outside.files file).mpr h]
  rfl

end Connector

namespace Activity

variable {R : Type} {a a' : Activity R}

/-- What holds of the connectors and starts of an activity of a server with these
specifications. -/
structure Settled (specs : List ConnectorSpec) (a : Activity R) : Prop where
  spec : ∀ i c, a.connector? i = some c → specs[i]? = some c.spec
  /-- A start that is over for want of a path is of a connector that has the path unset. -/
  unset : ∀ (call i : ℕ) (file : TlsFile),
    a.starts[call]? = some ⟨i, Connector.unsetRun file⟩ →
      ∃ spec, specs[i]? = some spec ∧ spec.unset? = some file

namespace Settled

variable {specs : List ConnectorSpec}

/-- **One act keeps it.** -/
theorem step (h : Settled specs a) (act : Act) : Settled specs (a.step act).1 := by
  -- by what an act can change of an activity
  cases a.change_step act with
  | rests hconnectors hstarts =>
    refine ⟨?_, ?_⟩
    · simpa only [hconnectors] using h.spec
    · simpa only [hstarts] using h.unset
  | begins index hact hconnectors hstarts =>
    refine ⟨?_, fun call i file hcall => ?_⟩
    · simpa only [hconnectors] using h.spec
    · -- the run of the new call has not begun, so the call is one of those before
      rw [hstarts] at hcall
      rcases getElem?_concat_cases hcall with hold | hnew
      · exact h.unset call i file hold
      · cases (StartCall.mk.inj hnew).2
  | closes index c hact hconnector hreplaces hstarts =>
    refine ⟨fun i c' hc => ?_, ?_⟩
    · rcases hreplaces.cases hc with ⟨rfl, rfl⟩ | ⟨-, hc⟩
      · exact h.spec index c hconnector
      · exact h.spec i c' hc
    · simpa only [hstarts] using h.unset
  | advances call index run c outside hact hstepped =>
    refine ⟨fun i c' hc => ?_, fun call' i file hcall => ?_⟩
    · rcases hstepped.replaces.cases hc with ⟨rfl, rfl⟩ | ⟨-, hc⟩
      · rw [c.spec_advance]
        exact h.spec index c hstepped.connector_eq
      · exact h.spec i c' hc
    · rcases hstepped.starts_cases hcall with ⟨-, rfl, hrun⟩ | hcall
      · -- the run that has taken the step was over before, or it is over now
        rcases Connector.unset_of_advance hrun.symm with hwas | hunset
        · have hbefore := hstepped.call_eq
          rw [hwas] at hbefore
          exact h.unset call _ file hbefore
        · exact ⟨c.spec, h.spec _ c hstepped.connector_eq, hunset⟩
      · exact h.unset call' i file hcall

/-- **Every activity keeps it.** -/
theorem run (h : Settled specs a) (acts : List Act) : Settled specs (a.run acts).1 := by
  induction acts generalizing a with
  | nil => exact h
  | cons act rest ih => exact ih (h.step act)

end Settled

/-- A server of which nothing has been called. -/
theorem settled_of_server (s : Server R) : Settled s.specs { server := s } := by
  refine ⟨fun i c hc => ?_, fun call i file hcall => by simp at hcall⟩
  -- nothing is called yet, so it is left to see that the connectors have their specifications
  have hspecs : s.specs[i]? = (s.connectors[i]?).map (·.spec) := List.getElem?_map
  have hconnector : s.connectors[i]? = some c := by
    rw [Server.connectors, List.getElem?_map]
    exact hc
  rw [hspecs, hconnector]
  rfl

end Activity

/-! ### Servers of configurations -/

/-- The connector of a specification on a surface of an environment: it serves the router of the
surface. -/
def Environment.connectorOn {σ : Type} (e : Environment σ) (surface : Surface)
    (spec : ConnectorSpec) : Connector Surface :=
  { spec, target := surface, contextPath := e.wiring.contextPath surface }

namespace ServerConfig

variable {σ : Type}

theorem connectors_buildServer (c : ServerConfig) (e : Environment σ) :
    (c.buildServer e).1.connectors =
      c.applicationConnectors.map (e.connectorOn .application)
        ++ c.adminConnectors.map (e.connectorOn .admin) := by
  have hconnectors : (c.buildServer e).1.connectors = c.connectors e.wiring := by
    change ((c.connectors e.wiring).map fun connector => ({ connector } : Slot Surface)).map
      (·.connector) = _
    rw [List.map_map]
    exact List.map_id _
  rw [hconnectors]
  rfl

/-- The server forgets lists and indices, and a place among its connectors gives them back. -/
theorem connectors_place (c : ServerConfig) (e : Environment σ) {surface : Surface} {index : ℕ}
    {spec : ConnectorSpec} (h : (c.specs surface)[index]? = some spec) :
    (c.buildServer e).1.connectors[c.place surface index]? =
      some (e.connectorOn surface spec) := by
  have hmap : ((c.specs surface).map (e.connectorOn surface))[index]? =
      some (e.connectorOn surface spec) := by
    rw [List.getElem?_map, h]
    rfl
  rw [connectors_buildServer]
  cases surface with
  | application =>
    have hlt : index < (c.applicationConnectors.map (e.connectorOn .application)).length :=
      (List.getElem?_eq_some_iff.mp hmap).1
    rw [place, List.getElem?_append_left hlt]
    exact hmap
  | admin =>
    -- the connectors of the application stand before those of the administration
    have hbehind : (c.applicationConnectors.map (e.connectorOn .application)).length ≤
        c.place .admin index := by
      rw [List.length_map]
      exact Nat.le_add_right _ _
    rw [List.getElem?_append_right hbehind, place, List.length_map, Nat.add_sub_cancel_left]
    exact hmap

/-- Whether a start of the connector of the specification at an index of a surface can be over for
want of a path: it is over so in some activity of the server that is built. -/
def StartsUnset (c : ServerConfig) (e : Environment σ) (surface : Surface) (index : ℕ)
    (file : TlsFile) : Prop :=
  index < (c.specs surface).length ∧
    ∃ (acts : List Activity.Act) (call : ℕ),
      ((Activity.mk (c.buildServer e).1 [] []).run acts).1.starts[call]? =
        some ⟨c.place surface index, Connector.unsetRun file⟩

theorem specs_place (c : ServerConfig) (e : Environment σ) {surface : Surface} {index : ℕ}
    {spec : ConnectorSpec} (h : (c.specs surface)[index]? = some spec) :
    (c.buildServer e).1.specs[c.place surface index]? = some spec := by
  rw [Server.specs, List.getElem?_map, c.connectors_place e h]
  rfl

/-- **Starts find what is unset.** The starts that can be over for want of a path are those of the
specifications that have it unset. -/
theorem startsUnset_iff (c : ServerConfig) (e : Environment σ) (surface : Surface) (index : ℕ)
    (file : TlsFile) :
    c.StartsUnset e surface index file ↔
      ∃ spec, (c.specs surface)[index]? = some spec ∧ spec.unset? = some file := by
  constructor
  · -- the invariant of starts gives the specification at the place of the connector
    rintro ⟨hlt, acts, call, hcall⟩
    have hspec := List.getElem?_eq_getElem hlt
    obtain ⟨spec, hplaced, hunset⟩ :=
      ((Activity.settled_of_server (c.buildServer e).1).run acts).unset call _ file hcall
    rw [c.specs_place e hspec] at hplaced
    obtain rfl := Option.some.inj hplaced
    exact ⟨_, hspec, hunset⟩
  · rintro ⟨spec, hspec, hunset⟩
    refine ⟨(List.getElem?_eq_some_iff.mp hspec).1, ?_⟩
    -- the start is called, passes the check of its new connector and loads
    let outside : Surroundings :=
      { bound := .error .invalidPort, accepted := .transient "" }
    let place := c.place surface index
    refine ⟨[.start place, .advance 0 outside, .advance 0 outside], 0, ?_⟩
    let called : Activity Surface :=
      { server := (c.buildServer e).1, starts := [⟨place, .entering⟩] }
    have hcalled : called.starts[0]? = some ⟨place, .entering⟩ := rfl
    have hconnector : called.connector? place = some (e.connectorOn surface spec) := by
      rw [Activity.connector?, ← List.getElem?_map]
      exact c.connectors_place e hspec
    obtain ⟨hentered, -⟩ := Activity.advance_of_connector hcalled hconnector outside
    have hreplaced := hentered.replaces place
    -- the first step leaves the connector at its place, marked as running
    rw [if_pos rfl] at hreplaced
    obtain ⟨hloaded, -⟩ := Activity.advance_of_connector hentered.starts_self hreplaced outside
    refine hloaded.starts_self.trans ?_
    exact congrArg (fun run => some (StartCall.mk place run))
      (Connector.advance_preparing_of_unset hunset outside _)

end ServerConfig

/-- **Validation settles key pairs.** If a configuration is valid, its server has one connector for
every specification, those of the application before those of the administration and each with the
router of its surface, and whatever starts and stops happen on the server, no start is over for want
of a path. And wherever a start can be over for want of a path, the configuration is refused, with a
fault that names the list of the specification, its index and the file. -/
theorem Configuration.validate_settles_key_pairs {σ : Type} (config : Configuration)
    (e : Environment σ) :
    (config.validate = .ok () →
      (config.server.buildServer e).1.connectors =
          config.server.applicationConnectors.map (e.connectorOn .application)
            ++ config.server.adminConnectors.map (e.connectorOn .admin) ∧
        ∀ (acts : List Activity.Act) (call connector : ℕ) (file : TlsFile),
          ((Activity.mk (config.server.buildServer e).1 [] []).run acts).1.starts[call]? ≠
            some ⟨connector, .finished (.error (.tls (.notConfigured file)))⟩) ∧
      ∀ (surface : Surface) (index : ℕ) (file : TlsFile),
        config.server.StartsUnset e surface index file →
          ∃ faults, config.validate = .error faults ∧
            ∃ fault ∈ faults, fault = .missingTlsFile surface index file ∧ fault.message =
              s!"{surface.connectorsName}[{index}]: https connector requires {file.name}" := by
  -- what is unset is what validation misses
  have hrefused : ∀ surface index file spec,
      (config.server.specs surface)[index]? = some spec → spec.unset? = some file →
        ∃ faults, config.validate = .error faults ∧
          .missingTlsFile surface index file ∈ faults := by
    intro surface index file spec hspec hunset
    exact Configuration.validate_of_fault
      (ServerConfig.mem_faults_iff.mpr ⟨spec, hspec, ConnectorSpec.lacks_of_unset? hunset⟩)
  refine ⟨fun hvalid => ⟨config.server.connectors_buildServer e, ?_⟩, ?_⟩
  · intro acts call connector file hcall
    obtain ⟨spec, hspec, hunset⟩ := ((Activity.settled_of_server
      (config.server.buildServer e).1).run acts).unset call connector file hcall
    -- the specification is in one of the two lists, where validation has looked at it
    have hmem : spec ∈ config.server.applicationConnectors ++ config.server.adminConnectors := by
      have hspecs : (config.server.buildServer e).1.specs =
          config.server.applicationConnectors ++ config.server.adminConnectors := by
        rw [Server.specs, config.server.connectors_buildServer e, List.map_append, List.map_map,
          List.map_map]
        exact congrArg₂ (· ++ ·) (List.map_id _) (List.map_id _)
      rw [← hspecs]
      exact List.mem_of_getElem? hspec
    have hlisted : ∃ surface, spec ∈ config.server.specs surface := by
      rcases List.mem_append.mp hmem with happlication | hadmin
      · exact ⟨.application, happlication⟩
      · exact ⟨.admin, hadmin⟩
    -- so it would have a fault at its index there
    obtain ⟨surface, hsurface⟩ := hlisted
    obtain ⟨index, hindex⟩ := List.getElem?_of_mem hsurface
    obtain ⟨faults, hfaults, -⟩ := hrefused surface index file spec hindex hunset
    rw [hvalid] at hfaults
    cases hfaults
  · intro surface index file hstarts
    obtain ⟨spec, hspec, hunset⟩ := (config.server.startsUnset_iff e surface index file).mp hstarts
    obtain ⟨faults, hfaults, hmem⟩ := hrefused surface index file spec hspec hunset
    exact ⟨faults, hfaults, _, hmem, rfl,
      ValidationError.message_missingTlsFile surface index file⟩

/-- A configuration with an https connector between plain ones. -/
def guardedConfig : Configuration where
  server :=
    { applicationConnectors := [.http ":8080", .https ":8443" "cert.pem" "key.pem"] }

/-- A configuration whose second connector of the administration has no key file. -/
def keylessConfig : Configuration where
  server :=
    { adminConnectors :=
        [.http ":8081", { kind := .https, address := ":8444", certFile := some "cert.pem" }] }

/-- Validation accepts the one configuration, whose server has three connectors. It refuses the
other one, of which a start fails for want of the key file. -/
theorem Configuration.validate_settles_key_pairs_keyless :
    (guardedConfig.validate = .ok () ∧
        (guardedConfig.server.buildServer (Environment.ofConfig (σ := Unit) "test"
            guardedConfig.server ⟨"test"⟩)).1.connectors.map (fun c => (c.spec.address, c.target)) =
        [(":8080", .application), (":8443", .application), (":8081", .admin)]) ∧
      keylessConfig.server.StartsUnset
          (Environment.ofConfig (σ := Unit) "test" keylessConfig.server ⟨"test"⟩) .admin 1 .key ∧
        ∃ faults, keylessConfig.validate = .error faults ∧
          ∃ fault ∈ faults, fault = .missingTlsFile .admin 1 .key ∧
            fault.message = "server.admin_connectors[1]: https connector requires key_file" := by
  have hvalid : guardedConfig.validate = .ok () := by decide
  have hstarts : keylessConfig.server.StartsUnset
      (Environment.ofConfig (σ := Unit) "test" keylessConfig.server ⟨"test"⟩) .admin 1 .key :=
    (ServerConfig.startsUnset_iff _ _ _ _ _).mpr ⟨_, rfl, rfl⟩
  obtain ⟨hconnectors, -⟩ := (Configuration.validate_settles_key_pairs guardedConfig
    (Environment.ofConfig (σ := Unit) "test" guardedConfig.server ⟨"test"⟩)).1 hvalid
  refine ⟨⟨hvalid, ?_⟩, hstarts, ?_⟩
  · rw [hconnectors]
    rfl
  · obtain ⟨-, hrefused⟩ := Configuration.validate_settles_key_pairs keylessConfig
      (Environment.ofConfig (σ := Unit) "test" keylessConfig.server ⟨"test"⟩)
    exact hrefused .admin 1 .key hstarts

end ServiceHost
