/-
**The rate limiter of the registration.**

The limiter in memory keeps, for each canonical email and for each source, the instants of the calls
it allowed.  A call is allowed while both its email and its source are below their limits within the
window that ends at the call, and then it is charged to both; a call without a source is charged to
its email alone, and a denied call to nothing.  What is older than the window is dropped only when
a call is charged, and is never missed.

The limits and the window are integers, as they are configured: a limit below zero lets nothing
through, and a window that is not positive holds nothing.

Main definitions:

* `RegistrationLimits`, `AllowCall`, `InMemoryRegistrationRateLimiter`, `allow` — the limiter;
* `LimiterRun`, `runLimiter` — histories of calls, with the calls allowed so far;
* `LimiterInv` — the limiter holds what counts of the allowed calls, and they respect the limits.

Main results:

* `allow_eq_false_iff` — a call is denied exactly when a limit is reached;
* `runLimiter_denied` — a denied call leaves the run as it was;
* `limiterInv_run` — the invariant of every run of calls in the order of time;
* `rate_limiter_exact` — **no window holds more than the limits, a denial has its reason in the
  window that ends at it, and costs nothing**.
-/

import PlatformOps.Dict
import PlatformOps.Registration
import PlatformOps.SlidingWindow

set_option relaxedAutoImplicit false
set_option autoImplicit false

namespace PlatformOps

open SlidingWindow

/-! ### The limiter -/

/-- The configuration of the limiter. -/
structure RegistrationLimits where
  maxPerEmail : ℤ
  maxPerSource : ℤ
  windowSeconds : ℤ
  deriving DecidableEq

/-- The length of the window, in the unit of the instants. -/
def RegistrationLimits.window (limits : RegistrationLimits) : ℤ := limits.windowSeconds * second

/-- A call of `allow`. -/
structure AllowCall where
  canonicalEmail : String
  source : Option String
  now : ℤ
  deriving DecidableEq

namespace AllowCall

/-- The email a call is charged to. -/
def chargedEmail (c : AllowCall) : Option String := some c.canonicalEmail

/-- The source a call is charged to, if it has one. -/
def chargedSource (c : AllowCall) : Option String := c.source.filter (· ≠ "")

end AllowCall

/-- The instants of the allowed calls, by email and by source. -/
structure InMemoryRegistrationRateLimiter where
  emailAttempts : Dict String (List ℤ)
  sourceAttempts : Dict String (List ℤ)
  deriving DecidableEq

namespace InMemoryRegistrationRateLimiter

def empty : InMemoryRegistrationRateLimiter := ⟨.empty, .empty⟩

/-- The instants under a key. -/
def attemptsOf (attempts : Dict String (List ℤ)) (key : String) : List ℤ :=
  (attempts.get? key).getD []

/-- `_recent`. -/
def recentAttempts (limits : RegistrationLimits) (attempts : Dict String (List ℤ))
    (key : Option String) (now : ℤ) : List ℤ :=
  match key with
  | none => []
  | some key => (attemptsOf attempts key).filter fun attempt => now < attempt + limits.window

/-- `allow`: the answer, and the limiter after the call. -/
def allow (limits : RegistrationLimits) (limiter : InMemoryRegistrationRateLimiter)
    (c : AllowCall) : Bool × InMemoryRegistrationRateLimiter :=
  let emailAttempts := recentAttempts limits limiter.emailAttempts (some c.canonicalEmail) c.now
  let sourceAttempts := recentAttempts limits limiter.sourceAttempts c.chargedSource c.now
  if limits.maxPerEmail ≤ emailAttempts.length ∨ limits.maxPerSource ≤ sourceAttempts.length then
    (false, limiter)
  else
    (true,
      { emailAttempts := limiter.emailAttempts.set c.canonicalEmail (emailAttempts ++ [c.now])
        sourceAttempts :=
          match c.chargedSource with
          | some source => limiter.sourceAttempts.set source (sourceAttempts ++ [c.now])
          | none => limiter.sourceAttempts })

theorem attemptsOf_set (attempts : Dict String (List ℤ)) (key : String) (times : List ℤ) :
    attemptsOf (attempts.set key times) = Function.update (attemptsOf attempts) key times := by
  funext k
  unfold attemptsOf
  by_cases h : k = key
  · subst h
    simp
  · rw [Dict.get?_set_of_ne _ _ h, Function.update_of_ne h]

end InMemoryRegistrationRateLimiter

open InMemoryRegistrationRateLimiter

/-! ### Runs -/

/-- The limiter, and the calls it allowed so far. -/
structure LimiterRun where
  limiter : InMemoryRegistrationRateLimiter
  allowed : List AllowCall
  deriving DecidableEq

/-- A run goes on with a call. -/
def LimiterRun.step (limits : RegistrationLimits) (r : LimiterRun) (c : AllowCall) : LimiterRun where
  limiter := (allow limits r.limiter c).2
  allowed := if (allow limits r.limiter c).1 then r.allowed ++ [c] else r.allowed

def LimiterRun.initial : LimiterRun := ⟨.empty, []⟩

/-- A new limiter after some calls. -/
def runLimiter (limits : RegistrationLimits) (calls : List AllowCall) : LimiterRun :=
  calls.foldl (LimiterRun.step limits) .initial

/-- The answer to a call after some others. -/
def answer (limits : RegistrationLimits) (before : List AllowCall) (c : AllowCall) : Bool :=
  (allow limits (runLimiter limits before).limiter c).1

theorem runLimiter_concat (limits : RegistrationLimits) (calls : List AllowCall) (c : AllowCall) :
    runLimiter limits (calls ++ [c]) = (runLimiter limits calls).step limits c := by
  rw [runLimiter, List.foldl_append]
  rfl

theorem allow_of_denied {limits : RegistrationLimits} {limiter : InMemoryRegistrationRateLimiter}
    {c : AllowCall} (h : (allow limits limiter c).1 = false) :
    (allow limits limiter c).2 = limiter := by
  unfold allow at h ⊢
  dsimp only at h ⊢
  split at h
  · rename_i hreached
    rw [if_pos hreached]
  · cases h

/-- An allowed call is charged to its email, and to its source if it has one. -/
theorem allow_of_allowed {limits : RegistrationLimits} {limiter : InMemoryRegistrationRateLimiter}
    {c : AllowCall} (h : (allow limits limiter c).1 = true) :
    attemptsOf (allow limits limiter c).2.emailAttempts =
        Function.update (attemptsOf limiter.emailAttempts) c.canonicalEmail
          (recent limits.window c.now (attemptsOf limiter.emailAttempts c.canonicalEmail)
            ++ [c.now]) ∧
      attemptsOf (allow limits limiter c).2.sourceAttempts =
        c.chargedSource.elim (attemptsOf limiter.sourceAttempts) fun source =>
          Function.update (attemptsOf limiter.sourceAttempts) source
            (recent limits.window c.now (attemptsOf limiter.sourceAttempts source)
              ++ [c.now]) := by
  unfold allow at h ⊢
  dsimp only at h ⊢
  split at h
  · cases h
  · rename_i hfree
    rw [if_neg hfree]
    refine ⟨attemptsOf_set .., ?_⟩
    cases c.chargedSource with
    | none => rfl
    | some source => exact attemptsOf_set ..

theorem LimiterRun.step_of_denied {limits : RegistrationLimits} {r : LimiterRun} {c : AllowCall}
    (h : (allow limits r.limiter c).1 = false) : r.step limits c = r := by
  unfold step
  rw [allow_of_denied h, h]
  rfl

/-- A denied call leaves the run as it was, and with it everything after the call. -/
theorem runLimiter_denied {limits : RegistrationLimits} {before : List AllowCall} {c : AllowCall}
    (h : answer limits before c = false) (after : List AllowCall) :
    runLimiter limits (before ++ c :: after) = runLimiter limits (before ++ after) := by
  have hstep : (runLimiter limits before).step limits c = runLimiter limits before :=
    LimiterRun.step_of_denied h
  rw [runLimiter, runLimiter, List.foldl_append, List.foldl_append, List.foldl_cons]
  exact congrArg (fun r => after.foldl (LimiterRun.step limits) r) hstep

/-! ### What the limiter holds -/

/-- The allowed calls of an email that count at a time. -/
def countedForEmail (limits : RegistrationLimits) (allowed : List AllowCall) (email : String)
    (now : ℤ) : List ℤ :=
  recent limits.window now (charged AllowCall.now AllowCall.chargedEmail email allowed)

/-- The allowed calls of a source that count at a time; none of no source. -/
def countedForSource (limits : RegistrationLimits) (allowed : List AllowCall)
    (source : Option String) (now : ℤ) : List ℤ :=
  source.elim [] fun source =>
    recent limits.window now (charged AllowCall.now AllowCall.chargedSource source allowed)

/-- The limiter holds what counts of the allowed calls, and these respect the limits. -/
structure LimiterInv (limits : RegistrationLimits) (r : LimiterRun) (now : ℤ) : Prop where
  email : Tracks AllowCall.now AllowCall.chargedEmail limits.window
    (attemptsOf r.limiter.emailAttempts) r.allowed now
  source : Tracks AllowCall.now AllowCall.chargedSource limits.window
    (attemptsOf r.limiter.sourceAttempts) r.allowed now
  respectsEmail : Respects AllowCall.now AllowCall.chargedEmail limits.window
    limits.maxPerEmail.toNat r.allowed
  respectsSource : Respects AllowCall.now AllowCall.chargedSource limits.window
    limits.maxPerSource.toNat r.allowed

section
variable {limits : RegistrationLimits} {r : LimiterRun} {now : ℤ} {c : AllowCall}

theorem limiterInv_initial (limits : RegistrationLimits) (now : ℤ) :
    LimiterInv limits .initial now where
  email := tracks_nil now
  source := tracks_nil now
  respectsEmail := respects_nil _
  respectsSource := respects_nil _

theorem LimiterInv.recent_email (h : LimiterInv limits r now) (hnow : now ≤ c.now) :
    recentAttempts limits r.limiter.emailAttempts (some c.canonicalEmail) c.now =
      countedForEmail limits r.allowed c.canonicalEmail c.now :=
  h.email c.canonicalEmail c.now hnow

theorem LimiterInv.recent_source (h : LimiterInv limits r now) (hnow : now ≤ c.now) :
    recentAttempts limits r.limiter.sourceAttempts c.chargedSource c.now =
      countedForSource limits r.allowed c.chargedSource c.now := by
  cases hsource : c.chargedSource with
  | none => rfl
  | some source => exact h.source source c.now hnow

/-- **A call is denied exactly when a limit is reached** by the allowed calls of the window that
ends at it. -/
theorem allow_eq_false_iff (h : LimiterInv limits r now) (hnow : now ≤ c.now) :
    (allow limits r.limiter c).1 = false ↔
      limits.maxPerEmail ≤ (countedForEmail limits r.allowed c.canonicalEmail c.now).length ∨
        limits.maxPerSource ≤ (countedForSource limits r.allowed c.chargedSource c.now).length := by
  rw [← h.recent_email hnow, ← h.recent_source hnow]
  unfold allow
  dsimp only
  split
  · rename_i hreached
    simp [hreached]
  · rename_i hreached
    simp [hreached]

/-- The invariant is kept by a call at the same time or later. -/
theorem LimiterInv.step (h : LimiterInv limits r now) (hnow : now ≤ c.now) :
    LimiterInv limits (r.step limits c) c.now := by
  cases hanswer : (allow limits r.limiter c).1 with
  | false =>
      rw [LimiterRun.step_of_denied hanswer]
      exact ⟨h.email.mono hnow, h.source.mono hnow, h.respectsEmail, h.respectsSource⟩
  | true =>
      obtain ⟨hemail, hsource⟩ := allow_of_allowed hanswer
      have hfree : ¬ (limits.maxPerEmail ≤
            (countedForEmail limits r.allowed c.canonicalEmail c.now).length ∨
          limits.maxPerSource ≤
            (countedForSource limits r.allowed c.chargedSource c.now).length) := by
        rw [← allow_eq_false_iff h hnow, hanswer]
        exact Bool.noConfusion
      push Not at hfree
      have hallowed : (r.step limits c).allowed = r.allowed ++ [c] := if_pos hanswer
      constructor
      · rw [hallowed]
        show Tracks _ _ _ (attemptsOf (allow limits r.limiter c).2.emailAttempts) _ _
        rw [hemail]
        exact h.email.charge rfl hnow
      · rw [hallowed]
        show Tracks _ _ _ (attemptsOf (allow limits r.limiter c).2.sourceAttempts) _ _
        rw [hsource]
        cases hkey : c.chargedSource with
        | none => exact h.source.skip hkey hnow
        | some source => exact h.source.charge hkey hnow
      · rw [hallowed]
        refine h.respectsEmail.concat fun k hkey => ?_
        rw [← Option.some.inj hkey]
        exact Int.lt_toNat.2 hfree.1
      · rw [hallowed]
        refine h.respectsSource.concat fun k hkey => ?_
        rw [hkey] at hfree
        exact Int.lt_toNat.2 hfree.2

/-- The invariant of every run of calls in the order of time. -/
theorem limiterInv_run (limits : RegistrationLimits) {calls : List AllowCall}
    (hsorted : calls.Pairwise fun c d => c.now ≤ d.now) {now : ℤ} (hpast : ∀ c ∈ calls, c.now ≤ now) :
    LimiterInv limits (runLimiter limits calls) now := by
  induction calls using List.reverseRecOn generalizing now with
  | nil => exact limiterInv_initial limits now
  | append_singleton calls c ih =>
      obtain ⟨hbefore, -, hlast⟩ := List.pairwise_append.1 hsorted
      have hinv := ih hbefore fun d hd => hlast d hd c (List.mem_singleton_self c)
      have hstep := hinv.step le_rfl
      have hnow := hpast c (by simp)
      rw [runLimiter_concat]
      exact ⟨hstep.email.mono hnow, hstep.source.mono hnow, hstep.respectsEmail,
        hstep.respectsSource⟩

theorem exists_latest (calls : List AllowCall) : ∃ now, ∀ c ∈ calls, c.now ≤ now := by
  induction calls with
  | nil => exact ⟨0, by simp⟩
  | cons c calls ih =>
      obtain ⟨now, hpast⟩ := ih
      refine ⟨max c.now now, fun d hd => ?_⟩
      rcases List.mem_cons.1 hd with rfl | hd
      · exact le_max_left ..
      · exact (hpast d hd).trans (le_max_right ..)

/-- **The rate limiter is exact.**  In a run of calls in the order of time, no half-open window
holds more allowed calls of one email or of one source than the limits; a call is denied exactly
when a limit is reached by the allowed calls of the window that ends at it; and a denied call
consumes nothing: without it everything is the same. -/
theorem rate_limiter_exact (limits : RegistrationLimits) {calls : List AllowCall}
    (hsorted : calls.Pairwise fun c d => c.now ≤ d.now) :
    (∀ email start, (within limits.window start (charged AllowCall.now AllowCall.chargedEmail email
        (runLimiter limits calls).allowed)).length ≤ limits.maxPerEmail.toNat) ∧
      (∀ source start, (within limits.window start (charged AllowCall.now AllowCall.chargedSource
        source (runLimiter limits calls).allowed)).length ≤ limits.maxPerSource.toNat) ∧
      ∀ before c after, calls = before ++ c :: after →
        (answer limits before c = false ↔
          limits.maxPerEmail ≤ (countedForEmail limits (runLimiter limits before).allowed
              c.canonicalEmail c.now).length ∨
            limits.maxPerSource ≤ (countedForSource limits (runLimiter limits before).allowed
              c.chargedSource c.now).length) ∧
        (answer limits before c = false →
          runLimiter limits (before ++ [c]) = runLimiter limits before ∧
            runLimiter limits calls = runLimiter limits (before ++ after)) := by
  obtain ⟨now, hpast⟩ := exists_latest calls
  have hrun := limiterInv_run limits hsorted hpast
  refine ⟨fun email start => length_within_le hrun.respectsEmail email start,
    fun source start => length_within_le hrun.respectsSource source start, ?_⟩
  · rintro before c after rfl
    obtain ⟨hbefore, hrest, hlast⟩ := List.pairwise_append.1 hsorted
    have hinv := limiterInv_run limits hbefore fun d hd => hlast d hd c (List.mem_cons_self ..)
    refine ⟨allow_eq_false_iff hinv le_rfl, fun hdenied => ⟨?_, runLimiter_denied hdenied after⟩⟩
    have hconcat := runLimiter_denied hdenied []
    rwa [List.append_nil] at hconcat

end

/-! ### One call in each window -/

/-- One call of an email and two of a source in fifteen minutes. -/
def tightLimits : RegistrationLimits := ⟨1, 2, 900⟩

/-- Ann calls twice within a second and again when fifteen minutes are over, Bob from the same
source in between, and somebody without a source at last. -/
def tightCalls : List AllowCall :=
  [⟨"ann@acme.test", some "10.0.0.1", 0⟩, ⟨"ann@acme.test", some "10.0.0.1", 1000000⟩,
    ⟨"bob@acme.test", some "10.0.0.1", 1000000⟩, ⟨"ann@acme.test", some "10.0.0.1", 900000000⟩,
    ⟨"eve@acme.test", none, 900000000⟩]

/-- The second call of Ann is denied, and costs her source nothing. -/
example : (runLimiter tightLimits tightCalls).allowed =
    tightCalls.eraseIdx 1 := by
  decide

theorem tight_limits_exact :
    (∀ email start, (within tightLimits.window start (charged AllowCall.now AllowCall.chargedEmail
        email (runLimiter tightLimits tightCalls).allowed)).length ≤ 1) ∧
      ∀ source start, (within tightLimits.window start (charged AllowCall.now
        AllowCall.chargedSource source (runLimiter tightLimits tightCalls).allowed)).length ≤ 2 := by
  have hexact := rate_limiter_exact tightLimits (show tightCalls.Pairwise _ by decide)
  exact ⟨hexact.1, hexact.2.1⟩

end PlatformOps
