import ServiceHost.Proofs.FormRoundTrip
import ServiceHost.Proofs.Reachable
import ServiceHost.Proofs.TaskNames

/-!
# Parameters of tasks

An operator gives the parameters of a task as arguments of the client. They come to the task through
two programs: the client splits each argument at its first equals sign and writes the pairs into the
query of a request, and the admin surface reads the pairs of the query and collects them by their
keys. Nothing is lost on the way, whatever the arguments hold.

* `AdminClient.splits_splitArg` and `AdminClient.command_dashes`: the client takes the arguments
  apart as they are.
* `Target.Written.parse?_text`: the target that the client writes is read as it was written.
* `Target.pairs_withPairs`: the pairs of a target are those of the query that the address had
  before, and then those of the arguments.
* `AdminClient.delivers_arguments` puts this together with the run of the task.
-/

namespace ServiceHost

/-! ### Arguments -/

/-- Values that do not look like options, or any values behind two dashes, are read as they are. -/
theorem CommandLine.readValues_eq {isPlain : Bool} {most : ℕ} {args : List String}
    (hmost : args.length ≤ most) (h : isPlain = true ∨ ∀ arg ∈ args, isOption arg = false) :
    readValues isPlain most args = { values := args, ending := .complete } := by
  induction args generalizing most with
  | nil => cases most <;> rfl
  | cons arg rest ih =>
    cases most with
    | zero => exact absurd hmost (Nat.not_succ_le_zero _)
    | succ most =>
      have hrest := ih (Nat.le_of_succ_le_succ hmost) (h.imp_right fun hall value hvalue =>
        hall value (List.mem_cons_of_mem _ hvalue))
      -- neither the two dashes nor a call for help is met before the values are plain
      have hvalue : (!isPlain && arg == "--") = false ∧ (!isPlain && asksForHelp arg) = false ∧
          (!isPlain && isOption arg) = false := by
        rcases h with rfl | hall
        · exact ⟨rfl, rfl, rfl⟩
        · have hoption := hall arg List.mem_cons_self
          have hdashes : (arg == "--") = false := by
            rw [beq_eq_false_iff_ne]
            rintro rfl
            exact absurd hoption (by decide)
          have hhelp : asksForHelp arg = false := by
            rw [← Bool.not_eq_true, asksForHelp, Bool.or_eq_true, beq_iff_eq, beginsWith_iff]
            rintro (rfl | ⟨cs, hcs⟩)
            · exact absurd hoption (by decide)
            · -- a call for help begins with a dash and a letter
              have hlist : arg.toList = '-' :: 'h' :: cs := hcs.symm
              rw [isOption, hlist] at hoption
              cases hoption
          rw [hdashes, hhelp, hoption, Bool.and_false]
          exact ⟨rfl, rfl, rfl⟩
      unfold readValues
      simp only [hvalue.1, hvalue.2.1, hvalue.2.2, hrest, Bool.false_eq_true, ↓reduceIte]

namespace AdminClient

/-- Whether a pair is what stands before and after the first equals sign of an argument. -/
structure Splits (arg : String) (pair : String × String) : Prop where
  text : arg = pair.1 ++ "=" ++ pair.2
  first : '=' ∉ pair.1.toList

/-- An argument, split at its first equals sign. -/
def splitArg (arg : String) : String × String :=
  (String.ofList (arg.toList.takeWhile (· != '=')),
    String.ofList ((arg.toList.dropWhile (· != '=')).drop 1))

theorem dropWhile_equals {arg : String} (h : '=' ∈ arg.toList) :
    ∃ value, arg.toList.dropWhile (· != '=') = '=' :: value := by
  have hne : arg.toList.dropWhile (· != '=') ≠ [] := by
    intro hnil
    have hall := List.dropWhile_eq_nil_iff.mp hnil '=' h
    exact absurd hall (by decide)
  obtain ⟨c, value, hdrop⟩ := List.exists_cons_of_ne_nil hne
  -- what is left begins with what is not skipped, and that is an equals sign
  have hhead := List.head_dropWhile_not (· != '=') hne
  simp only [hdrop, List.head_cons, bne_eq_false_iff_eq] at hhead
  exact ⟨value, by rw [hdrop, hhead]⟩

theorem splits_splitArg {arg : String} (h : '=' ∈ arg.toList) : Splits arg (splitArg arg) := by
  obtain ⟨value, hvalue⟩ := dropWhile_equals h
  refine ⟨?_, ?_⟩
  · apply String.toList_inj.mp
    have hequals : "=".toList = ['='] := rfl
    calc arg.toList
        = arg.toList.takeWhile (· != '=') ++ arg.toList.dropWhile (· != '=') :=
          List.takeWhile_append_dropWhile.symm
      _ = arg.toList.takeWhile (· != '=') ++ ['='] ++ value := by
          rw [hvalue, List.append_assoc]
          rfl
      _ = ((splitArg arg).1 ++ "=" ++ (splitArg arg).2).toList := by
          simp only [splitArg, hvalue, List.drop_succ_cons, List.drop_zero, String.toList_append,
            String.toList_ofList, hequals]
  · rw [splitArg, String.toList_ofList]
    intro hmem
    exact absurd (List.mem_takeWhile_imp hmem) (by decide)

/-- The client splits arguments so. -/
theorem pair?_eq {arg : String} (h : '=' ∈ arg.toList) : pair? arg = some (splitArg arg) := by
  obtain ⟨value, hvalue⟩ := dropWhile_equals h
  -- the client drops as many characters as stand before the first equals sign
  have hdrop : arg.toList.drop (arg.toList.takeWhile (· != '=')).length =
      arg.toList.dropWhile (· != '=') := by
    calc arg.toList.drop (arg.toList.takeWhile (· != '=')).length
        = (arg.toList.takeWhile (· != '=') ++ arg.toList.dropWhile (· != '=')).drop
            (arg.toList.takeWhile (· != '=')).length := by
          rw [List.takeWhile_append_dropWhile]
      _ = arg.toList.dropWhile (· != '=') := List.drop_left
  unfold pair?
  simp only [hdrop, hvalue, splitArg, List.drop_succ_cons, List.drop_zero]

theorem mapM_pair? {args : List String} (h : ∀ arg ∈ args, '=' ∈ arg.toList) :
    args.mapM pair? = some (args.map splitArg) := by
  induction args with
  | nil => rfl
  | cons arg rest ih =>
    have hrest := ih fun arg harg => h arg (List.mem_cons_of_mem _ harg)
    rw [List.mapM_cons, pair?_eq (h arg List.mem_cons_self), hrest]
    rfl

/-- The call for a task with the pairs of arguments. -/
def taskCall (url name : String) (args : List String) : Call :=
  { url, command := .task name (args.map splitArg) }

/-- What the client makes of a name and arguments that it has read. -/
theorem command_of_values {url name : String} {args rest : List String}
    (h : ∀ arg ∈ args, '=' ∈ arg.toList)
    (hread : CommandLine.readValues false rest.length rest =
      { values := name :: args, ending := .complete }) :
    command url ("task" :: rest) = .call (taskCall url name args) := by
  unfold command
  simp only [hread, mapM_pair? h]
  rfl

/-- Behind two dashes, any arguments with an equals sign are taken for pairs. -/
theorem command_dashes (url name : String) {args : List String}
    (h : ∀ arg ∈ args, '=' ∈ arg.toList) :
    command url ("task" :: "--" :: name :: args) = .call (taskCall url name args) := by
  refine command_of_values h ?_
  -- the dashes make all that follows plain, and are no value themselves
  have hdashes : CommandLine.readValues false ("--" :: name :: args).length
      ("--" :: name :: args) =
        CommandLine.readValues true ("--" :: name :: args).length (name :: args) := by
    rw [List.length_cons, CommandLine.readValues]
    rfl
  rw [hdashes]
  exact CommandLine.readValues_eq (Nat.le_succ _) (Or.inl rfl)

/-- Without the dashes they are if none looks like an option. -/
theorem command_plain (url : String) {name : String} {args : List String}
    (h : ∀ arg ∈ args, '=' ∈ arg.toList)
    (hplain : ∀ value ∈ name :: args, CommandLine.isOption value = false) :
    command url ("task" :: name :: args) = .call (taskCall url name args) :=
  command_of_values h (CommandLine.readValues_eq (Nat.le_refl _) (Or.inr hplain))

end AdminClient

/-! ### Targets as they are sent -/

namespace Target

/-- The text of a target. -/
def text (t : Target) : String :=
  match t.query with
  | none => t.path
  | some query => t.path ++ "?" ++ query

/-- Whether a target consists of what may stand in a path and in a query. -/
structure Written (t : Target) : Prop where
  begins : beginsWith t.path "/" = true
  path : ∀ c ∈ t.path.toList, isPathChar c = true
  query : ∀ query ∈ t.query, ∀ c ∈ query.toList, isQueryChar c = true

theorem ofOrigin?_text {t : Target} (h : t.Written) : ofOrigin? t.text.toList = some t := by
  obtain ⟨path, query⟩ := t
  -- a character of a path does not end it
  have hpath : ∀ c ∈ path.toList, (!endsPath c) = true := by
    intro c hc
    rw [not_endsPath_of_isPathChar (h.path c hc)]
    rfl
  have hall : path.toList.all isPathChar = true := List.all_eq_true.mpr h.path
  cases query with
  | none =>
    rw [text, ofOrigin?, List.takeWhile_eq_self_iff.mpr hpath, List.dropWhile_eq_nil_iff.mpr hpath,
      hall, String.ofList_toList]
    rfl
  | some query =>
    have htext : (Target.mk path (some query)).text.toList =
        path.toList ++ '?' :: query.toList := by
      rw [text, String.toList_append, String.toList_append, List.append_assoc]
      rfl
    -- the path ends with the question mark, and the query goes on to the end
    have htake : (path.toList ++ '?' :: query.toList).takeWhile (!endsPath ·) = path.toList := by
      rw [List.takeWhile_append_of_pos hpath]
      exact List.append_nil _
    have hdrop : (path.toList ++ '?' :: query.toList).dropWhile (!endsPath ·) =
        '?' :: query.toList := by
      rw [List.dropWhile_append_of_pos hpath]
      rfl
    have hquery : query.toList.takeWhile (· != '#') = query.toList := by
      refine List.takeWhile_eq_self_iff.mpr fun c hc => ?_
      rw [bne_iff_ne]
      rintro rfl
      exact absurd (h.query query rfl '#' hc) (by decide)
    have hchars : query.toList.all isQueryChar = true := List.all_eq_true.mpr (h.query query rfl)
    rw [htext, ofOrigin?, htake, hdrop]
    simp only [hall, hquery, hchars, Bool.not_true, Bool.false_eq_true, ↓reduceIte,
      String.ofList_toList]

/-- **Targets are read back.** A target that is written is read as it is, unless its text is too
long to be read at all. -/
theorem Written.parse?_text {t : Target} (h : t.Written) :
    parse? t.text = if t.text.utf8ByteSize > maxBytes then none else some t := by
  have hread := ofOrigin?_text h
  -- the text begins with a slash, so that neither an authority nor an asterisk is looked for
  obtain ⟨rest, hrest⟩ : ∃ rest, t.text.toList = '/' :: rest := by
    obtain ⟨rest, hrest⟩ := beginsWith_iff.mp h.begins
    have hpath : t.path.toList = '/' :: rest := hrest.symm
    cases hquery : t.query with
    | none => exact ⟨rest, by rw [text, hquery, hpath]⟩
    | some query =>
      refine ⟨rest ++ '?' :: query.toList, ?_⟩
      simp only [text, hquery, String.toList_append, hpath, List.append_assoc, List.cons_append]
      rfl
  unfold Target.parse?
  rw [hrest] at hread ⊢
  split
  · rfl
  · exact hread

end Target

namespace Url

/-- What holds of the characters that any byte is written with holds of those of all bytes. -/
theorem forall_mem_chars {kept : UInt8 → Bool} {p : Char → Bool}
    (h : ∀ b, ∀ c ∈ if kept b then [Char.ofNat b.toNat] else Form.escape b, p c = true)
    {bytes : List UInt8} {c : Char} (hc : c ∈ chars kept bytes) : p c = true := by
  obtain ⟨b, -, hb⟩ := List.mem_flatMap.mp hc
  exact h b c hb

theorem isPathChar_of_mem_chars {bytes : List UInt8} {c : Char}
    (h : c ∈ chars isPathByte bytes) : Target.isPathChar c = true := by
  apply forall_mem_chars (Form.forall_mem_of_byte _) h
  decide +kernel

theorem isQueryChar_of_mem_chars {bytes : List UInt8} {c : Char}
    (h : c ∈ chars isQueryByte bytes) : Target.isQueryChar c = true := by
  apply forall_mem_chars (Form.forall_mem_of_byte _) h
  decide +kernel

theorem isQueryChar_of_mem_serialize {pairs : List (String × String)} {c : Char}
    (h : c ∈ (Form.serialize pairs).toList) : Target.isQueryChar c = true := by
  have hbytes : ∀ b, ∀ c ∈ Form.encodeByte b, Target.isQueryChar c = true := by
    apply Form.forall_mem_of_byte
    decide +kernel
  rcases Form.mem_serialize h with rfl | rfl | ⟨b, hb⟩
  · decide
  · decide
  · exact hbytes b c hb

theorem segments_ne_nil (cs : List Char) : segments cs ≠ [] := by
  induction cs with
  | nil => exact List.cons_ne_nil _ _
  | cons c rest ih =>
    -- a slash begins a segment, and any other character stands in the first one
    obtain ⟨first, others, hrest⟩ := List.exists_cons_of_ne_nil ih
    unfold segments at hrest ⊢
    rw [List.foldr_cons, hrest]
    split <;> exact List.cons_ne_nil _ _

/-- A walk along segments ends with one at least. -/
theorem walk_ne_nil {found walked : List (List Char)} (h : found ≠ [] ∨ walked ≠ []) :
    walk walked found ≠ [] := by
  induction found generalizing walked with
  | nil =>
    rw [walk]
    exact mt List.reverse_eq_nil_iff.mp (h.resolve_left fun hne => hne rfl)
  | cons segment rest ih =>
    unfold walk
    -- the last segment is kept, or an empty one stands for it
    have hhere : ∀ tail : List (List Char),
        rest ≠ [] ∨ (if rest.isEmpty then [[]] else []) ++ tail ≠ [] := by
      intro tail
      cases rest with
      | nil => exact Or.inr (List.cons_ne_nil _ _)
      | cons next rest => exact Or.inl (List.cons_ne_nil _ _)
    -- two dots take a segment away, one dot none, and any other segment is kept
    by_cases habove : isAbove segment = true
    · simp only [habove, ↓reduceIte]
      exact ih (hhere _)
    · by_cases hsame : isHere segment = true
      · simp only [habove, hsame, Bool.false_eq_true, ↓reduceIte]
        exact ih (hhere _)
      · simp only [habove, hsame, Bool.false_eq_true, ↓reduceIte]
        exact ih (Or.inr (List.cons_ne_nil _ _))

/-- What is read of an address is written. -/
theorem written_target (behindHost : String) : (target behindHost).Written := by
  -- the path is written from segments, of which there is one at least
  obtain ⟨found, hne, hpath⟩ : ∃ found, found ≠ [] ∧ (target behindHost).path = pathText found :=
    ⟨_, walk_ne_nil (Or.inl (segments_ne_nil _)), rfl⟩
  refine ⟨?_, fun c hc => ?_, fun query hquery c hc => ?_⟩
  · obtain ⟨first, rest, rfl⟩ := List.exists_cons_of_ne_nil hne
    obtain ⟨cs, hcs⟩ : ∃ cs, (pathText (first :: rest)).toList = '/' :: cs :=
      ⟨_, by rw [pathText, String.toList_ofList, List.flatMap_cons, List.cons_append]⟩
    rw [hpath, beginsWith_iff, hcs]
    exact List.prefix_append ['/'] cs
  · rw [hpath, pathText, String.toList_ofList] at hc
    obtain ⟨segment, -, hc⟩ := List.mem_flatMap.mp hc
    rcases List.mem_cons.mp hc with rfl | hc
    · decide
    · rw [toList_encode] at hc
      exact isPathChar_of_mem_chars hc
  · -- there is a query behind a question mark only, and it is escaped
    unfold target at hquery
    simp only at hquery
    split at hquery
    · rw [← Option.some.inj hquery, toList_encode] at hc
      exact isQueryChar_of_mem_chars hc
    · cases hquery

end Url

namespace Target

/-! ### Pairs of a query -/

/-- The pairs of a target: those of its query. -/
def pairs (t : Target) : List (String × String) :=
  match t.query with
  | none => []
  | some query => Form.pairs (Text.Utf8.encode query)

theorem pairs_of_query_none {t : Target} (h : t.query = none) : t.pairs = [] := by
  rw [pairs, h]

end Target

namespace Url

/-- The query of a target to which pairs have been added: either part alone where the other one is
empty, and both with an ampersand between them. -/
theorem query_withPairs (t : Target) (ps : List (String × String)) :
    (withPairs t ps).query =
      if t.query.getD "" = "" then if ps = [] then none else some (Form.serialize ps)
      else if ps = [] then some (t.query.getD "")
      else some (t.query.getD "" ++ "&" ++ Form.serialize ps) := by
  have hserialize := Form.serialize_eq_empty_iff ps
  unfold withPairs
  generalize t.query.getD "" = own
  generalize Form.serialize ps = added at hserialize
  -- an empty query and no pairs are the same as none, so that each of the two is empty or not
  by_cases hown : own = ""
  · by_cases hps : ps = []
    · simp [hown, hps, hserialize.mpr hps]
    · have hadded : added ≠ "" := mt hserialize.mp hps
      simp [hown, hps, hadded, String.intercalate_singleton]
  · by_cases hps : ps = []
    · simp [hown, hps, hserialize.mpr hps, String.intercalate_singleton]
    · have hadded : added ≠ "" := mt hserialize.mp hps
      simp [hown, hps, hadded, String.intercalate_cons_cons, String.intercalate_singleton]

/-- **Added pairs** come behind those that are there, and all of them are read back. -/
theorem pairs_withPairs (t : Target) (ps : List (String × String)) :
    (withPairs t ps).pairs = t.pairs ++ ps := by
  -- an empty query has no pairs, like one that is not there
  have hempty : Form.pairs (Text.Utf8.encode "") = [] := by
    rw [Text.Utf8.encode_eq]
    rfl
  have hown : t.pairs = Form.pairs (Text.Utf8.encode (t.query.getD "")) := by
    unfold Target.pairs
    cases t.query with
    | none => exact hempty.symm
    | some query => rfl
  rw [Target.pairs, query_withPairs, hown]
  by_cases hquery : t.query.getD "" = ""
  · rw [if_pos hquery, hquery, hempty, List.nil_append]
    by_cases hps : ps = []
    · rw [if_pos hps, hps]
    · rw [if_neg hps]
      exact Form.pairs_serialize ps
  · rw [if_neg hquery]
    by_cases hps : ps = []
    · rw [if_pos hps, hps, List.append_nil]
    · rw [if_neg hps]
      -- the pairs go behind an ampersand, which separates them from those that are there
      have hand : Text.Utf8.encode "&" = [0x26] := by
        rw [Text.Utf8.encode_eq]
        rfl
      change Form.pairs (Text.Utf8.encode (t.query.getD "" ++ "&" ++ Form.serialize ps)) = _
      rw [Text.Utf8.encode_append, Text.Utf8.encode_append, hand, List.append_assoc,
        List.singleton_append, Form.pairs_append, Form.pairs_serialize]

theorem written_withPairs {t : Target} (h : t.Written) (ps : List (String × String)) :
    (withPairs t ps).Written := by
  refine ⟨h.begins, h.path, fun query hquery c hc => ?_⟩
  -- the query of the target, the ampersand and the pairs all have characters of a query
  have hown : ∀ c ∈ (t.query.getD "").toList, Target.isQueryChar c = true := by
    intro c hc
    cases hq : t.query with
    | none => rw [hq] at hc; cases hc
    | some query => rw [hq] at hc; exact h.query query hq c hc
  rw [query_withPairs] at hquery
  split at hquery
  · split at hquery
    · cases hquery
    · rw [← Option.some.inj hquery] at hc
      exact isQueryChar_of_mem_serialize hc
  · split at hquery
    · rw [← Option.some.inj hquery] at hc
      exact hown c hc
    · rw [← Option.some.inj hquery, String.toList_append, String.toList_append] at hc
      rcases List.mem_append.mp hc with hc | hadded
      · rcases List.mem_append.mp hc with hc | hand
        · exact hown c hc
        · obtain rfl := List.mem_singleton.mp hand
          decide
      · exact isQueryChar_of_mem_serialize hadded

end Url

/-! ### Requests that run a task -/

/-- A request that is no form gives the pairs of its target. -/
theorem Request.params?_of_not_isForm {request : Request} (h : request.isForm = false) :
    request.params? = some (Params.addPairs .empty request.target.pairs) := by
  unfold Request.params? Target.pairs
  rw [h]
  cases request.target.query with
  | none => rfl
  | some query => rfl

/-- The route of the tasks runs the task that the path names with the pairs of the target. -/
theorem AdminEnvironment.run_tasks {σ : Type} {a : AdminEnvironment σ} {request : Request}
    {root : String} {task : Task σ} (hform : request.isForm = false)
    (htask : a.tasks.find? (textAfter root request.target.path) = some task)
    (scope : Option String) (s : σ) :
    (a.run scope request s (.tasks root)).response =
        (task.execute (Params.addPairs .empty request.target.pairs) s).1.response ∧
      (a.run scope request s (.tasks root)).state =
        (task.execute (Params.addPairs .empty request.target.pairs) s).2 := by
  rw [AdminEnvironment.run, TaskRegistry.run, htask]
  simp only [Request.params?_of_not_isForm hform]
  exact ⟨trivial, trivial⟩

namespace AdminClient

/-- Where a task is posted to, before its parameters are added. -/
def taskTarget (path name : String) : Target := Url.target (path ++ "/tasks/" ++ name)

/-- The parameters of the pairs of arguments, behind those that the address has of its own. -/
def received (path name : String) (args : List String) : Params :=
  .addPairs .empty ((taskTarget path name).pairs ++ args.map splitArg)

theorem target_taskCall (url path name : String) (args : List String) :
    (taskCall url name args).target path =
      Url.withPairs (taskTarget path name) (args.map splitArg) := by
  rw [taskTarget, String.append_assoc]
  rfl

/-- How arguments of the client come to a task of the admin surface. -/
structure Delivers (σ : Type) (url name : String) (args : List String) : Prop where
  /-- Every argument is split at its first equals sign. -/
  splits : ∀ arg ∈ args, Splits arg (splitArg arg)
  /-- The client takes the arguments for these pairs. -/
  read : command url ("task" :: "--" :: name :: args) = .call (taskCall url name args)
  /-- The two dashes are needed only before what looks like an option. -/
  readPlain : (∀ value ∈ name :: args, CommandLine.isOption value = false) →
    command url ("task" :: name :: args) = .call (taskCall url name args)
  /-- The parameters are the pairs by their keys. -/
  groups : ∀ path, (taskTarget path name).query = none →
    (received path name args).Groups (args.map splitArg)
  /-- A query that stands in the address already comes before the pairs. -/
  groupsBehind : ∀ path,
    (received path name args).Groups ((taskTarget path name).pairs ++ args.map splitArg)
  /-- Without arguments no query is sent, and there are no parameters. -/
  nothing : ∀ path, (taskTarget path name).query = none → args = [] →
    ((taskCall url name args).target path).query = none ∧ received path name args = .empty
  /-- The target of the call is read as it is written, unless it is too long to be read. -/
  sent : ∀ path, Target.parse? ((taskCall url name args).target path).text =
    if ((taskCall url name args).target path).text.utf8ByteSize > Target.maxBytes then none
    else some ((taskCall url name args).target path)
  /-- A request of that target which is no form runs the task that its path names with these
  parameters. -/
  runs : ∀ (path : String) (request : Request),
    Target.parse? ((taskCall url name args).target path).text = some request.target →
    request.isForm = false →
    ∀ (a : AdminEnvironment σ) (root : String) (task : Task σ),
      a.tasks.find? (textAfter root request.target.path) = some task → ∀ scope s,
        (a.run scope request s (.tasks root)).response =
            (task.execute (received path name args) s).1.response ∧
          (a.run scope request s (.tasks root)).state =
            (task.execute (received path name args) s).2

/-- **Arguments come to the task.** Whatever the arguments of a task are, as long as each one has an
equals sign: the task receives their pairs, split at the first equals signs, by their keys. Every
key has its values in the order of the arguments, and there are no other keys. -/
theorem delivers_arguments (σ : Type) (url name : String) (args : List String)
    (hargs : ∀ arg ∈ args, '=' ∈ arg.toList) : Delivers σ url name args := by
  have hwritten : ∀ path, ((taskCall url name args).target path).Written := by
    intro path
    rw [target_taskCall]
    exact Url.written_withPairs (Url.written_target _) _
  have hbehind : ∀ path, (received path name args).Groups
      ((taskTarget path name).pairs ++ args.map splitArg) :=
    fun path => Params.groups_addPairs _
  have halone : ∀ path, (taskTarget path name).query = none →
      (received path name args).Groups (args.map splitArg) := by
    intro path hnone
    have hgroups := hbehind path
    rwa [Target.pairs_of_query_none hnone, List.nil_append] at hgroups
  have hsent := fun path => (hwritten path).parse?_text
  refine ⟨fun arg harg => splits_splitArg (hargs arg harg), command_dashes url name hargs,
    command_plain url hargs, halone, hbehind, ?_, hsent, ?_⟩
  · rintro path hnone rfl
    refine ⟨?_, (halone path hnone).unique Params.groups_empty⟩
    rw [target_taskCall, Url.query_withPairs, hnone]
    rfl
  · intro path request htarget hform a root task htask scope s
    -- what is read is the target of the call, with the pairs that were added to it
    have hrequest : request.target = (taskCall url name args).target path := by
      rw [hsent path] at htarget
      split at htarget
      · cases htarget
      · exact (Option.some.inj htarget).symm
    have hpairs : Params.addPairs .empty request.target.pairs = received path name args := by
      rw [hrequest, target_taskCall, Url.pairs_withPairs, received]
    rw [← hpairs]
    exact AdminEnvironment.run_tasks hform htask scope s

/-- A task that tells its parameters. -/
def echoing : Task Unit where
  name := "echo"
  execute params s := (.output params.lines, s)

/-- Arguments with a key that repeats, an empty key, separators, blanks and letters of two bytes. -/
def reservedArgs : List String := ["a=2", "a=1&b", "=x=y", "\u00fc=\u00e4 +%"]

/-- What the task answers to these arguments, as they are sent. -/
theorem delivers_arguments_reserved :
    (∀ arg ∈ reservedArgs, '=' ∈ arg.toList) ∧
      ((taskCall "" "echo" reservedArgs).target "").text =
        "/tasks/echo?a=2&a=1%26b&=x%3Dy&%C3%BC=%C3%A4+%2B%25" ∧
      (AdminEnvironment.run
          { router := { contextPath := "" }, tasks := TaskRegistry.register .empty echoing } none
          { method := .post, target := (taskCall "" "echo" reservedArgs).target "" } ()
          (.tasks "/tasks/")).response =
        .text 200 "=x=y\na=2,1&b\n\u00fc=\u00e4 +%\n" := by
  have hargs : ∀ arg ∈ reservedArgs, '=' ∈ arg.toList := by decide +kernel
  have hdelivers := delivers_arguments Unit "" "echo" reservedArgs hargs
  have hsent : Target.parse? ((taskCall "" "echo" reservedArgs).target "").text =
      some ((taskCall "" "echo" reservedArgs).target "") := by decide +kernel
  have hname : textAfter "/tasks/" ((taskCall "" "echo" reservedArgs).target "").path = "echo" := by
    decide +kernel
  refine ⟨hargs, by decide +kernel, ?_⟩
  obtain ⟨hresponse, -⟩ := hdelivers.runs ""
    { method := .post, target := (taskCall "" "echo" reservedArgs).target "" } hsent rfl
    { router := { contextPath := "" }, tasks := TaskRegistry.register .empty echoing } "/tasks/"
    echoing (by rw [hname]; rfl) none ()
  rw [hresponse]
  decide +kernel

end AdminClient

end ServiceHost
