import ServiceHost.Startup.Trail

/-!
# Bundles and applications

A bundle is a reusable part of a set-up. When it is added it is initialized, and that may add
further bundles to the same list; only after that the bundle enters the list itself. The bundles
run in the order of the list, before the application.

* `Bundle.add` adds a bundle to an assembly, which holds the list and the initializations so far.
* `runBundles` runs bundles up to the first that fails.
-/

namespace ServiceHost

/-- What a run of a set-up gives: its result, the environment after it and the events. -/
structure SetUpRun (σ E : Type) where
  result : Except E Unit
  environment : Environment σ
  events : List Event := []

/-- A set-up of an environment for a configuration. -/
abbrev SetUp (σ E : Type) := Configuration → Environment σ → SetUpRun σ E

/-- A bundle without those that it adds. -/
structure BundlePart (σ : Type) where
  name : String
  /-- What its initialization shows. -/
  onInitialize : List Event := []
  run : SetUp σ String

/-- A bundle with the bundles that its initialization adds. -/
inductive Bundle (σ : Type) where
  | tree (part : BundlePart σ) (added : List (Bundle σ))

/-- Bundles as they are put together: those that have been initialized and those that have entered
the list, in order. -/
structure Assembly (σ : Type) where
  initialized : List (BundlePart σ) := []
  bundles : List (BundlePart σ) := []

namespace Bundle

variable {σ : Type}

mutual

/-- Adds a bundle: its initialization begins and adds other bundles, and when it is over the bundle
enters the list. -/
def add : Bundle σ → Assembly σ → Assembly σ
  | tree part added, a =>
    let a := addAll added { a with initialized := a.initialized ++ [part] }
    { a with bundles := a.bundles ++ [part] }

/-- Adds bundles one after the other. -/
def addAll : List (Bundle σ) → Assembly σ → Assembly σ
  | [], a => a
  | b :: rest, a => addAll rest (b.add a)

end

end Bundle

/-- An application: the bundles that its initialization adds, and its run. -/
structure Application (σ : Type) where
  name : String
  onInitialize : List Event := []
  bundles : List (Bundle σ) := []
  run : SetUp σ Error

/-- What a set-up by bundles and an application gives: its result, the environment after it and
its trail. -/
structure Prepared (σ : Type) where
  result : Except Error Unit
  environment : Environment σ
  trail : Trail := []

/-- Runs bundles in order, the first of them with an index. The first failure ends it. -/
def runBundles {σ : Type} (server : Option (Server Surface)) (c : Configuration) :
    Nat → List (BundlePart σ) → Environment σ → Prepared σ
  | _, [], e => { result := .ok (), environment := e }
  | index, b :: rest, e =>
    let ran := b.run c e
    let result := ran.result.mapError (Error.bundle b.name)
    let happening : Happening := ⟨.step (.bundle index) (failure? result), ran.events, server⟩
    match result with
    | .error err =>
      { result := .error err, environment := ran.environment, trail := [happening] }
    | .ok () =>
      let later := runBundles server c (index + 1) rest ran.environment
      { later with trail := happening :: later.trail }

end ServiceHost
