/-
  Core/Reconnect.lean --- `connect_with_retry` of `crates/farbus-core/src/reconnect.rs`.

  What the attempts come to is given, attempt by attempt; durations are in nanoseconds.
  The loop sleeps after every attempt that failed, the last one too, and doubles its
  backoff with `Duration * 2`, which panics where the product is no `Duration`.
-/
import FarBus.Core.Client
import Mathlib.Algebra.BigOperators.Group.List.Basic
import Mathlib.Algebra.Order.BigOperators.Group.List

set_option autoImplicit false

namespace FarBus.Core

open FarBus.Protocol

/-- `Duration::MAX`, in nanoseconds. -/
def DURATION_MAX : Nat := 2 ^ 64 * 10 ^ 9 - 1

structure ReconnectPolicy where
  initial : Nat
  max : Nat
  maxAttempts : Nat
  deriving DecidableEq, Repr

/-- `ReconnectPolicy::default`: 100 ms, 3 s, ten attempts. -/
def ReconnectPolicy.default : ReconnectPolicy :=
  { initial := 100 * 10 ^ 6, max := 3 * 10 ^ 9, maxAttempts := 10 }

/-- `Duration * 2`. -/
def durationDouble (d : Nat) : Option Nat := if d * 2 ≤ DURATION_MAX then some (d * 2) else none

/-- What a call came to, and what it slept on the way.  The result is `none` where the
doubling of the backoff panicked. -/
structure Retried (κ : Type) where
  result : Option (Except ClientError κ)
  slept : List Nat := []

section

variable {κ : Type}

/-- The loop of `connect_with_retry`, from attempt number `attempt` on. -/
def retryLoop (connect : Nat → Except ClientError κ) (max : Nat) :
    Nat → Nat → Nat → Option ClientError → Retried κ
  | 0, _, _, lastErr => { result := some (.error (lastErr.getD .tls)) }
  | remaining + 1, attempt, backoff, _ =>
      match connect attempt with
      | .ok client => { result := some (.ok client) }
      | .error err =>
          match durationDouble backoff with
          | none => { result := none, slept := [backoff] }
          | some doubled =>
              let later := retryLoop connect max remaining (attempt + 1) (min doubled max) (some err)
              { later with slept := backoff :: later.slept }

/-- A client that is connected gets the token, if there is one. -/
def withToken (withAuthToken : Bytes32 → κ → κ) (token : Option Bytes32) (client : κ) : κ :=
  match token with
  | some tok => withAuthToken tok client
  | none => client

/-- `connect_with_retry`. -/
def connectWithRetry (withAuthToken : Bytes32 → κ → κ) (connect : Nat → Except ClientError κ)
    (token : Option Bytes32) (policy : ReconnectPolicy) : Retried κ :=
  let retried := retryLoop connect policy.max policy.maxAttempts 0 policy.initial none
  { retried with result := retried.result.map (Except.map (withToken withAuthToken token)) }

/-- The sleep after attempt number `k`. -/
def ReconnectPolicy.backoff (policy : ReconnectPolicy) (k : Nat) : Nat :=
  if k = 0 then policy.initial else min (policy.initial * 2 ^ k) policy.max

variable {policy : ReconnectPolicy}

theorem backoff_succ (k : Nat) : min (policy.backoff k * 2) policy.max = policy.backoff (k + 1) := by
  unfold ReconnectPolicy.backoff
  rw [if_neg (Nat.succ_ne_zero k), Nat.pow_succ, ← Nat.mul_assoc]
  split
  · rename_i hk
    rw [hk, Nat.pow_zero, Nat.mul_one]
  · omega

theorem backoff_le_max {k : Nat} (hk : k ≠ 0) : policy.backoff k ≤ policy.max := by
  rw [ReconnectPolicy.backoff, if_neg hk]
  exact Nat.min_le_right _ _

/-- What the loop has done when it ends, from attempt number `k` on. -/
structure RetrySpec (connect : Nat → Except ClientError κ) (policy : ReconnectPolicy)
    (k remaining : Nat) (retried : Retried κ) : Prop where
  bounded : retried.slept.length ≤ remaining
  slept_eq : retried.slept = (List.range' k retried.slept.length).map policy.backoff
  failed : ∀ i, k ≤ i → i < k + retried.slept.length → ∃ err, connect i = .error err
  result : match retried.result with
    | some (.ok client) =>
        retried.slept.length < remaining ∧ connect (k + retried.slept.length) = .ok client
    | some (.error err) =>
        retried.slept.length = remaining ∧
          (k + remaining = 0 ∧ err = .tls ∨
            0 < k + remaining ∧ connect (k + remaining - 1) = .error err)
    | none =>
        0 < retried.slept.length ∧
          DURATION_MAX < policy.backoff (k + retried.slept.length - 1) * 2

theorem retryLoop_spec (connect : Nat → Except ClientError κ) (policy : ReconnectPolicy)
    (remaining k : Nat) (lastErr : Option ClientError)
    (hlast : k = 0 ∧ lastErr = none ∨
      0 < k ∧ ∃ err, lastErr = some err ∧ connect (k - 1) = .error err) :
    RetrySpec connect policy k remaining
      (retryLoop connect policy.max remaining k (policy.backoff k) lastErr) := by
  induction remaining generalizing k lastErr with
  | zero =>
      refine ⟨Nat.le_refl _, rfl, fun i hi hlt => absurd hi (Nat.not_le.mpr hlt), rfl, ?_⟩
      rcases hlast with ⟨hk, rfl⟩ | ⟨hk, err, rfl, hconnect⟩
      · exact .inl ⟨hk, rfl⟩
      · exact .inr ⟨hk, hconnect⟩
  | succ remaining ih =>
      rw [retryLoop]
      cases hconnect : connect k with
      | ok client =>
          exact ⟨Nat.zero_le _, rfl, fun i hi hlt => absurd hi (Nat.not_le.mpr hlt),
            Nat.succ_pos _, hconnect⟩
      | error err =>
          dsimp only
          unfold durationDouble
          by_cases hfits : policy.backoff k * 2 ≤ DURATION_MAX
          · rw [if_pos hfits]
            dsimp only
            rw [backoff_succ]
            have hlater := ih (k + 1) (some err) (.inr ⟨Nat.succ_pos k, err, rfl, hconnect⟩)
            generalize retryLoop connect policy.max remaining (k + 1) (policy.backoff (k + 1))
              (some err) = later at hlater
            obtain ⟨hbounded, hslept, hfailed, hresult⟩ := hlater
            have hindex : k + (policy.backoff k :: later.slept).length
                = k + 1 + later.slept.length := by
              rw [List.length_cons]
              omega
            refine ⟨?_, ?_, ?_, ?_⟩
            · exact Nat.succ_le_succ hbounded
            · rw [List.length_cons, List.range'_succ, List.map_cons, ← hslept]
            · intro i hi hlt
              rcases Nat.eq_or_lt_of_le hi with rfl | hi
              · exact ⟨err, hconnect⟩
              · exact hfailed i hi (hindex ▸ hlt)
            · dsimp only
              rw [hindex, ← Nat.add_assoc, Nat.add_right_comm k remaining 1]
              generalize later.result = result at hresult ⊢
              match result, hresult with
              | some (.ok client), ⟨hlt, hclient⟩ => exact ⟨Nat.succ_lt_succ hlt, hclient⟩
              | some (.error err'), ⟨heq, herr⟩ => exact ⟨congrArg Nat.succ heq, herr⟩
              | none, ⟨_, hover⟩ => exact ⟨Nat.succ_pos _, hover⟩
          · rw [if_neg hfits]
            refine ⟨Nat.succ_le_succ (Nat.zero_le _), rfl, ?_, Nat.one_pos, Nat.lt_of_not_le hfits⟩
            intro i hi hlt
            obtain rfl : i = k := Nat.le_antisymm (Nat.le_of_lt_succ hlt) hi
            exact ⟨err, hconnect⟩

/-- All the sleeps of a call, but for the first no longer than `max`. -/
theorem sum_backoff_le (policy : ReconnectPolicy) (n : Nat) :
    ((List.range n).map policy.backoff).sum ≤ policy.initial + (n - 1) * policy.max := by
  induction n with
  | zero => exact Nat.zero_le _
  | succ n ih =>
      rw [List.range_succ, List.map_append, List.sum_append, List.map_singleton, List.sum_singleton]
      cases n with
      | zero => simp [ReconnectPolicy.backoff]
      | succ n =>
          have hlast : policy.backoff (n + 1) ≤ policy.max := backoff_le_max (Nat.succ_ne_zero n)
          simp only [Nat.add_sub_cancel] at ih ⊢
          rw [Nat.succ_mul]
          omega

/-- The first attempt that succeeds ends the call; without one the error of the last is
returned, or `Tls` if there was none.  The attempts before it all failed, and after the
k-th of them the call slept for `initial * 2 ^ k`, from the second on at most `max`; so it
does not panic if twice these can be slept. -/
theorem connectWithRetry_spec (withAuthToken : Bytes32 → κ → κ)
    (connect : Nat → Except ClientError κ) (token : Option Bytes32) (policy : ReconnectPolicy) :
    let retried := connectWithRetry withAuthToken connect token policy
    let failures := retried.slept.length
    failures ≤ policy.maxAttempts ∧
    retried.slept = (List.range failures).map policy.backoff ∧
    retried.slept.sum ≤ policy.initial + (policy.maxAttempts - 1) * policy.max ∧
    (∀ i < failures, ∃ err, connect i = .error err) ∧
    (∀ client, retried.result = some (.ok client) → failures < policy.maxAttempts ∧
      ∃ connected, connect failures = .ok connected ∧
        client = withToken withAuthToken token connected) ∧
    (∀ err, retried.result = some (.error err) → failures = policy.maxAttempts ∧
      (policy.maxAttempts = 0 ∧ err = .tls ∨ connect (policy.maxAttempts - 1) = .error err)) ∧
    (retried.result = none → DURATION_MAX < policy.initial * 2 ∨ DURATION_MAX < policy.max * 2) := by
  intro retried failures
  obtain ⟨hbounded, hslept, hfailed, hresult⟩ :=
    retryLoop_spec connect policy policy.maxAttempts 0 none (.inl ⟨rfl, rfl⟩)
  have hstart : policy.backoff 0 = policy.initial := if_pos rfl
  rw [hstart] at hbounded hslept hfailed hresult
  simp only [Nat.zero_add] at hfailed hresult
  rw [← List.range_eq_range'] at hslept
  have hsum : retried.slept.sum ≤ policy.initial + (policy.maxAttempts - 1) * policy.max :=
    calc retried.slept.sum = ((List.range failures).map policy.backoff).sum := congrArg _ hslept
      _ ≤ policy.initial + (failures - 1) * policy.max := sum_backoff_le policy failures
      _ ≤ policy.initial + (policy.maxAttempts - 1) * policy.max :=
        Nat.add_le_add_left (Nat.mul_le_mul_right _ (Nat.sub_le_sub_right hbounded 1)) _
  refine ⟨hbounded, hslept, hsum, fun i hi => hfailed i (Nat.zero_le i) hi, ?_, ?_, ?_⟩
  · intro client hclient
    obtain ⟨result, hretried, hmap⟩ := Option.map_eq_some_iff.mp hclient
    cases result with
    | error err => cases hmap
    | ok connected =>
        rw [hretried] at hresult
        cases hmap
        exact ⟨hresult.1, connected, hresult.2, rfl⟩
  · intro err herr
    obtain ⟨result, hretried, hmap⟩ := Option.map_eq_some_iff.mp herr
    cases result with
    | ok connected => cases hmap
    | error err =>
        rw [hretried] at hresult
        cases hmap
        exact ⟨hresult.1, hresult.2.imp_right And.right⟩
  · intro hnone
    rw [Option.map_eq_none_iff.mp hnone] at hresult
    have hdoubled : DURATION_MAX < policy.backoff (failures - 1) * 2 := hresult.2
    by_cases hfirst : failures - 1 = 0
    · rw [hfirst, hstart] at hdoubled
      exact .inl hdoubled
    · exact .inr (Nat.lt_of_lt_of_le hdoubled (Nat.mul_le_mul_right 2 (backoff_le_max hfirst)))

/-- With the default policy all ten attempts together sleep for 18.1 s. -/
example : ((List.range 10).map ReconnectPolicy.default.backoff).sum = 18100 * 10 ^ 6 := by decide

end

end FarBus.Core
