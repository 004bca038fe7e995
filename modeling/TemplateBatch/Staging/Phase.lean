import TemplateBatch.Staging.Layout

/-!
Staging, one file-system step at a time. A file that is missing is written under a temporary name
and then given its own, which fails when another host was faster; that failure counts as success.
Nothing that exists is ever written to.
-/
namespace TemplateBatch.Staging

inductive Phase where
  | opening
  | checking (a : Artifact)
  | creating (a : Artifact)
  | writing (a : Artifact) (temporary : Path)
  /-- The worker program is made executable before it gets its name. -/
  | permitting (temporary : Path)
  | publishing (a : Artifact) (temporary : Path)
  | done
  | failed (e : StageError)
  deriving DecidableEq, Repr

namespace Phase

/-- The phase behind an artifact that is in place. -/
def afterArtifact : Artifact → Phase
  | .executable => .checking .configuration
  | .configuration => .done

def afterWriting (a : Artifact) (temporary : Path) : Phase :=
  match a with
  | .executable => .permitting temporary
  | .configuration => .publishing .configuration temporary

def isFinal : Phase → Bool
  | .done => true
  | .failed _ => true
  | _ => false

/-- An upper bound on the steps that are left. -/
def rank : Phase → Nat
  | .opening => 10
  | .checking .executable => 9
  | .creating .executable => 8
  | .writing .executable _ => 7
  | .permitting _ => 6
  | .publishing .executable _ => 5
  | .checking .configuration => 4
  | .creating .configuration => 3
  | .writing .configuration _ => 2
  | .publishing .configuration _ => 1
  | .done => 0
  | .failed _ => 0

end Phase

def temporaryName (k : Nat) : String := ".tmp" ++ Machine.serial k

def executableMode : Nat := 0o755

def temporaryMode : Nat := 0o600

/-- Replace the content of a file that is there. -/
def fill (t : FileTree) (base : Location) (p : Path) (content : Bytes) : FileTree :=
  match t.locate base .entry p with
  | .ok ⟨l, some (.file _ mode)⟩ => t.put l (.file content mode)
  | _ => t

/-- The tree without a temporary file. -/
def discard (t : FileTree) (base : Location) (temporary : Path) : FileTree :=
  match t.removeFile base temporary with
  | .ok t' => t'
  | .error _ => t

/-- The directory in which an artifact is prepared. -/
def workshop (l : Layout) (a : Artifact) : Path := (l.path a).parent?.getD ⟨"."⟩

/-- The next step of staging `stock` into `layout`. A step that meets an obstacle fails with it; the
failure of a later step takes the temporary file with it. -/
def step (m : Machine) (layout : Layout) (stock : Stock) (obstacle : Option SystemError)
    (w : World) : Phase → Phase × FileTree
  | .opening =>
    match obstacle with
    | some e => (.failed (.system layout.directory e), w.tree)
    | none =>
      match w.tree.makePath m.directory layout.directory with
      | (.ok (), t) => (.checking .executable, t)
      | (.error e, t) => (.failed (.system layout.directory e), t)
  | .checking a =>
    if w.tree.exists? m.directory (layout.path a) then (Phase.afterArtifact a, w.tree)
    else (.creating a, w.tree)
  | .creating a =>
    match obstacle with
    | some e => (.failed (.system (layout.path a) e), w.tree)
    | none =>
      let temporary := m.freshPath w (workshop layout a) temporaryName
      match w.tree.createNew m.directory temporary temporaryMode with
      | .ok t => (.writing a temporary, t)
      | .error e => (.failed (.system (layout.path a) e), w.tree)
  | .writing a temporary =>
    match obstacle with
    | some e => (.failed (.system (layout.path a) e), discard w.tree m.directory temporary)
    | none =>
      (Phase.afterWriting a temporary, fill w.tree m.directory temporary (stock.content a))
  | .permitting temporary =>
    match obstacle with
    | some e =>
      (.failed (.system layout.executablePath e), discard w.tree m.directory temporary)
    | none =>
      match w.tree.setMode m.directory temporary executableMode with
      | .ok t => (.publishing .executable temporary, t)
      | .error e =>
        (.failed (.system layout.executablePath e), discard w.tree m.directory temporary)
  | .publishing a temporary =>
    match obstacle with
    | some e => afterRefusal a temporary e
    | none =>
      match w.tree.publish m.directory temporary (layout.path a) with
      | .ok t => (Phase.afterArtifact a, t)
      | .error e => afterRefusal a temporary e
  | .done => (.done, w.tree)
  | .failed e => (.failed e, w.tree)
where
  afterRefusal (a : Artifact) (temporary : Path) (e : SystemError) : Phase × FileTree :=
    (if e = .alreadyExists then Phase.afterArtifact a else .failed (.system (layout.path a) e),
      discard w.tree m.directory temporary)

/-- Steps from a phase to the end of staging, at most `fuel`. -/
def steps (m : Machine) (layout : Layout) (stock : Stock) : (fuel : Nat) → Phase → World →
    Phase × World
  | 0, p, w => (p, w)
  | fuel + 1, p, w =>
    if p.isFinal then (p, w)
    else
      let (p', t) := step m layout stock (m.obstacle w.clock) w p
      steps m layout stock fuel p' { w with tree := t, clock := w.clock + 1 }

/-- Write whatever is missing of a layout. -/
def complete (m : Machine) (layout : Layout) (stock : Stock) : Work StageError Unit :=
  ExceptT.mk fun w =>
    match steps m layout stock Phase.opening.rank .opening w with
    | (.failed e, w') => (.error e, w')
    | (_, w') => (.ok (), w')

end TemplateBatch.Staging
