import Introspection.Cache.Parser
import Introspection.Proofs.Cache.Key
import Introspection.Proofs.Files.Changes
import Introspection.Proofs.Files.Path

/-!
# Runs of parsers with one cache

Parsers share a cache while files change and time goes by.

* `World`, `Step`, `World.step`, `World.run`: what there is, and what happens to it;
* `Step.IsLater`, `Ordered`: what comes to a place is later than all files that were there before;
* `Step.keyText?`: the texts that keys are made of;
* `Parser.uncached`: what a parser gives without a cache.
-/

namespace Introspection

/-! ## Steps -/

/-- A cache of models, the time and the files. -/
structure World (β : Type) where
  cache : Cache (Cached β)
  now : Float
  files : Files

/-- What can happen. -/
inductive Step where
  | parse (p : Parser) (path : Option String) (refresh : Bool)
  | write (path : String) (file : File) (time : Rat)
  | delete (path : String) (time : Rat)
  | advance (time : Float)
  | get (key : String)
  | tag (key : String)
  | isStale (key path : String)
  | invalidate (key : String)
  | clear

namespace World

variable {β : Type}

/-- What there is after something happened. -/
def step (w : World β) : Step → World β
  | .parse p path refresh =>
    { w with cache := (p.parse w.cache w.now w.files path refresh).1 }
  | .write path file time => { w with files := w.files.write (Path.ofText path) file time }
  | .delete path time => { w with files := w.files.delete (Path.ofText path) time }
  | .advance time => { w with now := time }
  | .get key => { w with cache := (w.cache.get w.now key).1 }
  | .tag _ | .isStale _ _ => w
  | .invalidate key => { w with cache := w.cache.invalidate key }
  | .clear => { w with cache := w.cache.clear }

/-- What there is after several things happened. -/
def run (w : World β) (steps : List Step) : World β := steps.foldl step w

end World

/-- The places at which files have been, each with a time at which the file there was written. -/
abbrev Times := List (Path × Rat)

/-- The times of the files that are there. -/
def Files.times (fs : Files) : Times :=
  fs.places.filterMap fun (q, x) => x.file?.map fun f => (q, f.modified)

/-- The times after something happened. -/
def Times.after (seen : Times) : Step → Times
  | .write path file _ => (Files.place (Path.ofText path), file.modified) :: seen
  | _ => seen

/-- A file is written later than all files that were at its place before, and a folder changes later
than all files that were at the place of the folder before. -/
def Step.IsLater (seen : Times) : Step → Prop
  | .write path file time =>
    (∀ m, (Files.place (Path.ofText path), m) ∈ seen → m < file.modified) ∧
      ∀ q ∈ Files.way (Path.ofText path), ∀ m, (q, m) ∈ seen → m < time
  | .delete path time => ∀ q ∈ Files.way (Path.ofText path), ∀ m, (q, m) ∈ seen → m < time
  | _ => True

/-- What comes to a place is later than all files that were there before. -/
def Ordered : Times → List Step → Prop
  | _, [] => True
  | seen, s :: steps => s.IsLater seen ∧ Ordered (seen.after s) steps

/-- The text that a step makes a key of. -/
def Step.keyText? : Step → Option String
  | .parse p path _ =>
    (path.or p.path).map fun path => keyText (modelKeyParts (Path.ofText path).text p.config)
  | _ => none

/-- What a parser gives without a cache. -/
def Parser.uncached (p : Parser) (fs : Files) (path : Option String) :
    Except Failure (Option Built) :=
  match path.or p.path with
  | none => .error .noPath
  | some path => (Model.ofFile p.config .empty fs path).result

end Introspection
