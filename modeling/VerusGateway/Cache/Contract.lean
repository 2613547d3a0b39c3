import VerusGateway.Domain.File
import Mathlib.Logic.Function.Basic

/-!
# The cache contract

`domain.Cache` (`internal/domain/interfaces.go`) is implemented twice, on the local file system and on
Redis. Both are modelled as a `Cache σ`: the interface's operations on the realisation's own state
`σ`, each given the context's error when the context is already done (`ctx.Err()`, `none` while it is
live) and the wall clock `now`. `tick` is the work a realisation does on its own between calls (the
file system's expiry sweeper, Redis's active expiry). `Stats` and `Close` are left out.

What a cache is for is the abstract `Store`: by key, the most recent `Set` that took effect and was
not followed by a `Delete` of the key or a `Clear` (`Store.apply`, `latest`), with its file, its clock
and the `ttl` it passed. A realisation `Refines` the store through a relation `R` when every call
keeps `R` and every hit returns a file that `agree`s with the stored one; entries may disappear early
(expiry, eviction), but a hit never returns anything the store does not hold. `Refines.run` carries
`R` along a whole run and `Refines.get_hit` turns it into the read-your-writes law at the end of any
run.
-/

namespace VerusGateway

/-- A realisation of `domain.Cache` over its state `σ`. -/
structure Cache (σ : Type) where
  get : σ → Option GoError → Int → String → σ × Except GoError File
  set : σ → Option GoError → Int → String → File → Int → σ × Option GoError
  delete : σ → Option GoError → String → σ × Option GoError
  clear : σ → Option GoError → σ × Option GoError
  tick : σ → Int → σ

namespace Cache

/-- Wall-clock units: time and durations are in nanoseconds, as `time.Duration`. -/
def second : Int := 1000000000

def hour : Int := 3600 * second

/-- The operations of `domain.Cache` that change or read entries, and the background work. -/
inductive Op where
  | get (key : String)
  | set (key : String) (file : File) (ttl : Int)
  | delete (key : String)
  | clear
  | tick

/-- One call: the context's error if it is already done, the clock, the operation. -/
structure Call where
  ctx : Option GoError
  now : Int
  op : Op

section Run

variable {σ : Type} (c : Cache σ)

/-- The state after one call. -/
def step (s : σ) (call : Call) : σ :=
  match call.op with
  | .get k => (c.get s call.ctx call.now k).1
  | .set k f ttl => (c.set s call.ctx call.now k f ttl).1
  | .delete k => (c.delete s call.ctx k).1
  | .clear => (c.clear s call.ctx).1
  | .tick => c.tick s call.now

/-- The state after a run of calls. -/
def run (s : σ) (calls : List Call) : σ := calls.foldl c.step s

end Run

/-! ### The abstract store -/

/-- What a cache should keep of a `Set`: the file, the clock of the call and the `ttl` it passed. -/
structure Stored where
  file : File
  setAt : Int
  ttl : Int

/-- By key, the `Set` a cache should hold. -/
abbrev Store := String → Option Stored

/-- A call's effect on the store: a `Set`, `Delete` or `Clear` whose context is live. -/
def Store.apply (A : Store) (call : Call) : Store :=
  match call.ctx, call.op with
  | none, .set k f ttl => Function.update A k (some ⟨f, call.now, ttl⟩)
  | none, .delete k => Function.update A k none
  | none, .clear => fun _ => none
  | _, _ => A

@[simp] theorem Store.apply_get (A : Store) (ctx : Option GoError) (now : Int) (k : String) :
    A.apply ⟨ctx, now, .get k⟩ = A := by
  cases ctx <;> rfl

@[simp] theorem Store.apply_tick (A : Store) (ctx : Option GoError) (now : Int) :
    A.apply ⟨ctx, now, .tick⟩ = A := by
  cases ctx <;> rfl

/-- The most recent `Set` on each key not followed by a `Delete` of it or a `Clear`. -/
def latest (calls : List Call) : Store := calls.foldl Store.apply fun _ => none

/-- A file returned on a hit carries the stored file's content and, when it has metadata, that
metadata. -/
def Agrees (e : Stored) (f' : File) : Prop :=
  f'.content = e.file.content ∧ ∀ m, e.file.metadata = some m → f'.metadata = some m

/-- A file returned on a hit carries the stored file's content and metadata, absent metadata
included. -/
def Returns (e : Stored) (f' : File) : Prop :=
  f'.content = e.file.content ∧ f'.metadata = e.file.metadata

theorem Returns.agrees {e : Stored} {f' : File} (h : Returns e f') : Agrees e f' :=
  ⟨h.1, fun _ hm => h.2.trans hm⟩

/-- `c` implements the store through `R`: every call keeps `R`, and a hit returns a file that
`agree`s with the stored one. -/
structure Refines {σ : Type} (c : Cache σ) (R : σ → Store → Prop) (agree : Stored → File → Prop) :
    Prop where
  step : ∀ s A call, R s A → R (c.step s call) (A.apply call)
  get_ok : ∀ s A ctx now k s' f', R s A → c.get s ctx now k = (s', .ok f') →
    ∃ e, A k = some e ∧ agree e f'

namespace Refines

variable {σ : Type} {c : Cache σ} {R : σ → Store → Prop} {agree : Stored → File → Prop}

theorem run (h : c.Refines R agree) (calls : List Call) :
    ∀ s A, R s A → R (c.run s calls) (calls.foldl Store.apply A) := by
  induction calls with
  | nil => exact fun _ _ hR => hR
  | cons call calls ih => exact fun s A hR => ih _ _ (h.step s A call hR)

theorem mono (h : c.Refines R agree) {agree' : Stored → File → Prop}
    (hag : ∀ e f, agree e f → agree' e f) : c.Refines R agree' :=
  ⟨h.step, fun s A ctx now k s' f' hR hget =>
    let ⟨e, he, ha⟩ := h.get_ok s A ctx now k s' f' hR hget
    ⟨e, he, hag e f' ha⟩⟩

/-- Read-your-writes at the end of any run from a state that holds nothing. -/
theorem get_hit (h : c.Refines R agree) {s₀ : σ} (h₀ : R s₀ fun _ => none) (calls : List Call)
    {ctx : Option GoError} {now : Int} {k : String} {s' : σ} {f' : File}
    (hget : c.get (c.run s₀ calls) ctx now k = (s', .ok f')) :
    ∃ f, latest calls k = some f ∧ agree f f' :=
  h.get_ok _ _ _ _ _ _ _ (h.run calls s₀ _ h₀) hget

end Refines

end Cache

end VerusGateway
