import CannedHttp.Files.Memory
import CannedHttp.Proofs.Definition.Requests
import CannedHttp.Proofs.Store.Calls
import CannedHttp.Proofs.World

/-!
What populating gives, without its steps. The listed files are read one after the other; the first of
them that cannot be read, or that is malformed where that is not tolerated, decides the error, and
otherwise the routes of the well-formed files follow each other.
-/
namespace CannedHttp.Store
open Script

/-- A listed file with what reading it gave. -/
abbrev ReadFile := Path × Except IoError Text

namespace ReadFile

def readable (f : ReadFile) : Bool :=
  f.2.isOk

def parsed (f : ReadFile) : Except Error (List Route) :=
  match f.2 with
  | .error e => .error (.io f.1 e)
  | .ok content => (Definition.routes f.1.label content).mapError .format

def wellFormed (f : ReadFile) : Bool :=
  f.parsed.isOk

/-- The error that the file stops the load with. -/
def failure? (skip : Bool) (f : ReadFile) : Option Error :=
  match f.parsed with
  | .ok _ => none
  | .error (.format e) => if skip then none else some (.format e)
  | .error e => some e

def routes (f : ReadFile) : List Route :=
  f.parsed.toOption.getD []

end ReadFile

/-- The error tells which file it is about. -/
def Error.Names (path : Path) : Error → Prop
  | .format e => e.file = path.label
  | .pattern .. => False
  | .io p _ => p = path

section Reference
variable {σ : Type} [FileReader σ]

def readAll (files : σ) : List Path → List ReadFile
  | [] => []
  | path :: paths => (path,(FileReader.readText files path).1) :: readAll (FileReader.readText files path).2 paths

/-- What there is to load: nothing without the directory, and otherwise the listed files as they read. -/
def reading (c : Config.Routes) (files : σ) : Option (Except Error (List ReadFile)) :=
  if FileReader.directoryExists files c.directory then
    some (match Glob.compile c.filePattern with
      | .error e => .error (.pattern c.filePattern e)
      | .ok pattern =>
        match FileReader.listFiles files c.directory pattern with
        | .error e => .error (.io c.directory e)
        | .ok paths => .ok (readAll files paths))
  else none

/-- The first failure, or else all routes in order. -/
def collected (skip : Bool) (read : List ReadFile) : Except Error (List Route) :=
  match read.findSome? (·.failure? skip) with
  | some e => .error e
  | none => .ok (read.flatMap (·.routes))

/-- The outcome of populating from these files. -/
def populated (c : Config.Routes) (files : σ) : Except Error (List Route) :=
  match reading c files with
  | none => .ok []
  | some (.error e) => .error e
  | some (.ok read) => collected c.skipInvalidFiles read

/-- The same directory without the malformed files: every other file reads as it did. -/
def WithoutMalformed (c : Config.Routes) (files others : σ) : Prop :=
  reading c others = (reading c files).map (Except.map (List.filter (·.wellFormed)))

end Reference

section Failures
variable (skip : Bool) (f : ReadFile) (e : Error)

private theorem names_of_parsed (failed : f.parsed = .error e) : e.Names f.1 := by
  obtain ⟨path,content⟩ := f
  cases content with
  | error io =>
    obtain rfl := Except.error.inj failed
    rfl
  | ok content =>
    change (Definition.routes path.label content).mapError .format = .error e at failed
    cases parsed : Definition.routes path.label content with
    | ok rs =>
      rw [parsed] at failed
      contradiction
    | error malformed =>
      rw [parsed] at failed
      obtain rfl := Except.error.inj failed
      exact Definition.routes_file path.label content malformed parsed

theorem parsed_of_failure (failed : f.failure? skip = some e) : f.parsed = .error e := by
  unfold ReadFile.failure? at failed
  split at failed
  next => contradiction
  next malformed same =>
    rw [Option.ite_none_left_eq_some] at failed
    obtain rfl := Option.some.inj failed.2
    exact same
  next other _ same =>
    obtain rfl := Option.some.inj failed
    exact same

private theorem failure_of_unreadable (unreadable : f.readable = false) :
    ∃ io, f.failure? skip = some (.io f.1 io) := by
  obtain ⟨path,content⟩ := f
  cases content with
  | error io => exact ⟨io,rfl⟩
  | ok content => contradiction

theorem format_of_readable (readable : f.readable = true) (failed : f.parsed = .error e) :
    ∃ malformed, e = .format malformed := by
  obtain ⟨path,content⟩ := f
  cases content with
  | error io => contradiction
  | ok content =>
    change (Definition.routes path.label content).mapError .format = .error e at failed
    cases parsed : Definition.routes path.label content with
    | ok rs =>
      rw [parsed] at failed
      contradiction
    | error malformed =>
      rw [parsed] at failed
      exact ⟨malformed,(Except.error.inj failed).symm⟩

private theorem not_failed_of_readable (readable : f.readable = true) : f.failure? true = none := by
  unfold ReadFile.failure?
  cases parsed : f.parsed with
  | ok rs => rfl
  | error e =>
    obtain ⟨malformed,rfl⟩ := format_of_readable f e readable parsed
    rfl

private theorem not_failed_of_wellFormed (formed : f.wellFormed = true) : f.failure? skip = none := by
  unfold ReadFile.wellFormed at formed
  unfold ReadFile.failure?
  cases parsed : f.parsed with
  | ok rs => rfl
  | error e =>
    rw [parsed] at formed
    contradiction

private theorem routes_of_malformed (malformed : f.wellFormed = false) : f.routes = [] := by
  unfold ReadFile.wellFormed at malformed
  unfold ReadFile.routes
  cases parsed : f.parsed with
  | ok rs =>
    rw [parsed] at malformed
    contradiction
  | error e => rfl

end Failures

section Collecting
variable (skip : Bool) (f : ReadFile) (fs : List ReadFile)

private theorem collected_cons_ok (rs : List Route) (parsed : f.parsed = .ok rs) :
    collected skip (f :: fs) = (collected skip fs).map (rs ++ ·) := by
  have passes : f.failure? skip = none := by rw [ReadFile.failure?,parsed]
  have gives : f.routes = rs := by rw [ReadFile.routes,parsed,Except.toOption,Option.getD_some]
  unfold collected
  rw [List.findSome?_cons,List.flatMap_cons,passes,gives]
  dsimp only
  cases fs.findSome? (·.failure? skip) with
  | some e => rfl
  | none => rfl

private theorem collected_cons_error (e : Error) (failed : f.failure? skip = some e) :
    collected skip (f :: fs) = .error e := by
  unfold collected
  rw [List.findSome?_cons,failed]

private theorem collected_cons_skipped (passes : f.failure? skip = none) (malformed : f.wellFormed = false) :
    collected skip (f :: fs) = collected skip fs := by
  unfold collected
  rw [List.findSome?_cons,List.flatMap_cons,passes,routes_of_malformed f malformed,List.nil_append]

/-- Tolerating malformed files gives what the well-formed ones alone give. -/
private theorem collected_filter (readable : ∀ f ∈ fs, f.readable = true) :
    collected true fs = collected false (fs.filter (·.wellFormed)) := by
  have tolerated : fs.findSome? (·.failure? true) = none :=
    List.findSome?_eq_none_iff.mpr fun f member => not_failed_of_readable f (readable f member)
  have formed : (fs.filter (·.wellFormed)).findSome? (·.failure? false) = none :=
    List.findSome?_eq_none_iff.mpr fun f member => not_failed_of_wellFormed false f (List.mem_filter.mp member).2
  have same : fs.flatMap (·.routes) = (fs.filter (·.wellFormed)).flatMap (·.routes) := by
    clear readable tolerated formed
    induction fs with
    | nil => rfl
    | cons f fs ih =>
      cases formed : f.wellFormed with
      | true => rw [List.filter_cons_of_pos formed,List.flatMap_cons,List.flatMap_cons,ih]
      | false =>
        rw [List.filter_cons_of_neg (ne_true_of_eq_false formed),List.flatMap_cons,routes_of_malformed f formed,ih]
        rfl
  unfold collected
  rw [tolerated,formed,same]

private theorem collected_unreadable (member : f ∈ fs) (unreadable : f.readable = false) :
    ∃ e, collected skip fs = .error e := by
  obtain ⟨io,failed⟩ := failure_of_unreadable skip f unreadable
  unfold collected
  cases first : fs.findSome? (·.failure? skip) with
  | some e => exact ⟨e,rfl⟩
  | none =>
    rw [List.findSome?_eq_none_iff.mp first f member] at failed
    contradiction

end Collecting

section Runs
variable {σ : Type} [FileReader σ]

theorem run_loadFile (path : Path) (w : World σ) :
    ((loadFile path).run w).1 = ReadFile.parsed (path,(FileReader.readText w.files path).1) ∧
      ((loadFile path).run w).2.files = (FileReader.readText w.files path).2 := by
  have read : (Script.readText path).run w =
      ((FileReader.readText w.files path).1,{ w with files := (FileReader.readText w.files path).2 }) := rfl
  unfold loadFile
  rw [run_bind,read]
  rcases FileReader.readText w.files path with ⟨content,files⟩
  cases content with
  | error e => exact ⟨rfl,rfl⟩
  | ok content =>
    constructor
    · exact congrArg Prod.fst (run_bind _ _ _)
    · rw [run_bind]
      exact run_reportAll _ _

theorem run_loadFiles (skip : Bool) (paths : List Path) (w : World σ) :
    ((loadFiles skip paths).run w).1 = collected skip (readAll w.files paths) := by
  induction paths generalizing w with
  | nil => rfl
  | cons path paths ih =>
    obtain ⟨loaded,files⟩ := run_loadFile path w
    unfold loadFiles readAll
    rw [run_bind,loaded,← files]
    cases parsed : ReadFile.parsed (path,(FileReader.readText w.files path).1) with
    | ok rs =>
      rw [collected_cons_ok skip _ _ rs parsed,← ih]
      exact congrArg Prod.fst (run_bind (loadFiles skip paths) _ _)
    | error e =>
      cases e with
      | format e =>
        cases skip with
        | true =>
          have passes : ReadFile.failure? true (path,(FileReader.readText w.files path).1) = none := by
            rw [ReadFile.failure?,parsed]
            rfl
          rw [collected_cons_skipped true _ _ passes (by rw [ReadFile.wellFormed,parsed]; rfl)]
          -- the file is reported, which leaves what is read next as it was
          exact ih _
        | false => exact (collected_cons_error false _ _ _ (by rw [ReadFile.failure?,parsed]; rfl)).symm
      | pattern text e => exact (collected_cons_error skip _ _ _ (by rw [ReadFile.failure?,parsed])).symm
      | io path e => exact (collected_cons_error skip _ _ _ (by rw [ReadFile.failure?,parsed])).symm

theorem metrics_loadFiles (skip : Bool) (paths : List Path) (w : World σ) :
    ((loadFiles skip paths).run w).2.metrics = w.metrics := by
  apply run_keeps (·.loads = true) World.metrics
  · intro w action loading
    apply w.metrics_perform
    rintro m rfl
    contradiction
  · exact loadFiles_loads skip paths

/-- The outcome of populating. A success is measured by the number of routes, a failure not at all. -/
theorem outcome_populate (c : Config.Routes) (w : World σ) :
    ((populate c).run w).1 = populated c w.files ∧
      ((populate c).run w).2.metrics =
        match populated c w.files with
        | .ok routes => w.metrics.record (.routesLoaded routes.length)
        | .error _ => w.metrics := by
  have asked : (Script.directoryExists c.directory).run w =
      (FileReader.directoryExists w.files c.directory,w) := rfl
  unfold populate populated reading
  rw [run_bind,asked]
  cases FileReader.directoryExists w.files c.directory with
  | false => exact ⟨rfl,rfl⟩
  | true =>
    dsimp only
    rw [if_pos rfl,if_pos rfl]
    cases Glob.compile c.filePattern with
    | error e => exact ⟨rfl,rfl⟩
    | ok pattern =>
      have listing : (Script.listFiles c.directory pattern).run w =
          (FileReader.listFiles w.files c.directory pattern,w) := rfl
      dsimp only
      rw [run_bind,listing]
      cases FileReader.listFiles w.files c.directory pattern with
      | error e => exact ⟨rfl,rfl⟩
      | ok paths =>
        have loaded := run_loadFiles c.skipInvalidFiles paths w
        have measured := metrics_loadFiles c.skipInvalidFiles paths w
        dsimp only
        rw [run_bind,loaded]
        cases collected c.skipInvalidFiles (readAll w.files paths) with
        | error e => exact ⟨rfl,measured⟩
        | ok routes => exact ⟨rfl,congrArg (Metrics.record · (.routesLoaded routes.length)) measured⟩

theorem run_populate (c : Config.Routes) (w : World σ) : ((populate c).run w).1 = populated c w.files :=
  (outcome_populate c w).1

private theorem populated_without_malformed (c : Config.Routes) (files others : σ)
    (without : WithoutMalformed c files others)
    (readable : ∀ read, reading c files = some (.ok read) → ∀ f ∈ read, f.readable = true) :
    populated { c with skipInvalidFiles := true } files = populated { c with skipInvalidFiles := false } others := by
  -- whether malformed files are tolerated does not change what there is to load
  have tolerant (x : σ) : reading { c with skipInvalidFiles := true } x = reading c x := rfl
  have strict (x : σ) : reading { c with skipInvalidFiles := false } x = reading c x := rfl
  unfold WithoutMalformed at without
  unfold populated
  rw [tolerant,strict,without]
  cases found : reading c files with
  | none => rfl
  | some outcome =>
    cases outcome with
    | error e => rfl
    | ok read => exact collected_filter read (readable read found)

/-- Populating has the outcome of its reference. An error that a file stops it with names the file, a file
that cannot be read always stops it, and tolerating malformed files is the same as not having them if all
files can be read. -/
theorem populate_reference (c : Config.Routes) (w : World σ) :
    ((populate c).run w).1 = populated c w.files ∧
    (∀ read, reading c w.files = some (.ok read) → ∀ f ∈ read,
      (∀ e, f.failure? c.skipInvalidFiles = some e → e.Names f.1) ∧
      (f.readable = false → ∃ e, ((populate c).run w).1 = .error e)) ∧
    ∀ v : World σ, WithoutMalformed c w.files v.files →
      (∀ read, reading c w.files = some (.ok read) → ∀ f ∈ read, f.readable = true) →
      ((populate { c with skipInvalidFiles := true }).run w).1 =
        ((populate { c with skipInvalidFiles := false }).run v).1 := by
  refine ⟨run_populate c w,?_,?_⟩
  · intro read found f member
    constructor
    · intro e failed
      exact names_of_parsed f e (parsed_of_failure c.skipInvalidFiles f e failed)
    · intro unreadable
      obtain ⟨e,failed⟩ := collected_unreadable c.skipInvalidFiles f read member unreadable
      rw [run_populate,populated,found]
      exact ⟨e,failed⟩
  · intro v without readable
    rw [run_populate,run_populate]
    exact populated_without_malformed c w.files v.files without readable

def malformedPath : Path :=
  Utf8.encode "./HttpFiles/b.http".toList

def lastPath : Path :=
  Utf8.encode "./HttpFiles/c.http".toList

def mixedFiles : MemoryFiles :=
  .ofList [(Utf8.encode "./HttpFiles/a.http".toList,"GET /a".toList),(malformedPath,"b".toList),
    (lastPath,"GET /c".toList)]

def tolerant : Config.Routes :=
  { Config.Routes.default with skipInvalidFiles := true }

def mixedRead : List ReadFile :=
  mixedFiles.files.map fun f => (f.1,.ok f.2)

theorem populate_reference_mixed :
    reading tolerant mixedFiles = some (.ok mixedRead) ∧ mixedRead.map (·.wellFormed) = [true,false,true] ∧
    (∀ f ∈ mixedRead, f.readable = true) ∧
    WithoutMalformed tolerant mixedFiles (mixedFiles.removeFile malformedPath) ∧
    ((populate tolerant).run (.start mixedFiles)).1 =
      ((populate .default).run (.start (mixedFiles.removeFile malformedPath))).1 ∧
    ∃ e, ((populate tolerant).run (.start (mixedFiles.deny lastPath))).1 = .error e := by
  have found : reading tolerant mixedFiles = some (.ok mixedRead) := by decide +kernel
  have readable : ∀ f ∈ mixedRead, f.readable = true := by decide +kernel
  have without : WithoutMalformed tolerant mixedFiles (mixedFiles.removeFile malformedPath) := by
    unfold WithoutMalformed
    decide +kernel
  have tolerated := (populate_reference tolerant (.start mixedFiles)).2.2
    (.start (mixedFiles.removeFile malformedPath)) without fun read same => by
      obtain rfl : mixedRead = read := Except.ok.inj (Option.some.inj (found.symm.trans same))
      exact readable
  have denied : reading tolerant (mixedFiles.deny lastPath) =
      some (.ok (mixedRead.take 2 ++ [(lastPath,.error .denied)])) := by
    decide +kernel
  have stopped := (populate_reference tolerant (.start (mixedFiles.deny lastPath))).2.1 _ denied
    (lastPath,.error .denied) (List.mem_append_right _ List.mem_cons_self)
  exact ⟨found,by decide +kernel,readable,without,tolerated,stopped.2 rfl⟩

end Runs

end CannedHttp.Store
