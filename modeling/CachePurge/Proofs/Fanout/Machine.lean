import CachePurge.Proofs.Fanout.Results
import Mathlib.Logic.Relation

/-!
A fan-out as a machine that takes one step after the other, in any order that its permits allow. It
pulls the next request, waits for a permit, collects some of those that have ended, and spawns the
request; meanwhile running requests end, each of which gives its permit back. When there is nothing
more to pull, it joins what is left and returns.
-/

namespace CachePurge.Fanout

variable {κ : Type}

/-- What the loop is about to do: pull, take a permit for a request, spawn one that has it, wait for
those that still run, or nothing more. -/
inductive Phase (κ : Type) where
  | pulling
  | waiting (request : Attempt κ)
  | holding (request : Attempt κ)
  | joining
  | returned

namespace Phase

/-- The request that was pulled and not spawned yet. -/
def inHand : Phase κ → List (Attempt κ)
  | .waiting request | .holding request => [request]
  | .pulling | .joining | .returned => []

/-- The permits that the loop itself holds. -/
def held : Phase κ → Nat
  | .holding _ => 1
  | .pulling | .waiting _ | .joining | .returned => 0

end Phase

structure Machine (κ : Type) where
  pending : List (Attempt κ)
  phase : Phase κ
  /-- How many permits are free. -/
  permits : Nat
  running : List (Attempt κ)
  /-- Those that have ended, but were not collected. -/
  ended : List (Attempt κ)
  results : Results κ
  tally : Tally
  failures : List (κ × Fault)

namespace Machine

/-- How many requests run at once under a setting. -/
def limit (setting : Nat) : Nat := max setting 1

/-- A fan-out that is about to pull its first request. -/
def start (setting : Nat) (requests : List (Attempt κ)) (tally : Tally) :
    Except Panic (Machine κ) :=
  if maxConcurrency < setting then .error tooManyPermits
  else .ok
    { pending := requests, phase := .pulling, permits := limit setting, running := [], ended := [],
      results := .empty, tally, failures := [] }

/-- Collects one request that has ended, of which some others are left. -/
def collect (m : Machine κ) (request : Attempt κ) (others : List (Attempt κ)) : Machine κ :=
  { m with
    ended := others
    results := m.results.record request.key request.outcome.isSuccess
    failures := m.failures ++ Fanout.failures [request] }

/-- Ends one of the running requests, which counts it and frees its permit. -/
def finish (m : Machine κ) (request : Attempt κ) (others : List (Attempt κ)) : Machine κ :=
  { m with
    running := others
    ended := m.ended ++ [request]
    permits := m.permits + 1
    tally := m.tally.request request.outcome.isSuccess request.latency }

inductive Step : Machine κ → Machine κ → Prop where
  | pull {m : Machine κ} {request : Attempt κ} {rest : List (Attempt κ)} :
      m.phase = .pulling → m.pending = request :: rest →
      Step m { m with pending := rest, phase := .waiting request }
  | acquire {m : Machine κ} {request : Attempt κ} {permits : Nat} :
      m.phase = .waiting request → m.permits = permits + 1 →
      Step m { m with permits, phase := .holding request }
  | drain {m : Machine κ} {request other : Attempt κ} {before after : List (Attempt κ)} :
      m.phase = .holding request → m.ended = before ++ other :: after →
      Step m (m.collect other (before ++ after))
  | spawn {m : Machine κ} {request : Attempt κ} :
      m.phase = .holding request →
      Step m { m with running := m.running ++ [request], phase := .pulling }
  | finish {m : Machine κ} {request : Attempt κ} {before after : List (Attempt κ)} :
      m.running = before ++ request :: after → Step m (m.finish request (before ++ after))
  | close {m : Machine κ} :
      m.phase = .pulling → m.pending = [] → Step m { m with phase := .joining }
  | join {m : Machine κ} {request : Attempt κ} {before after : List (Attempt κ)} :
      m.phase = .joining → m.ended = before ++ request :: after →
      Step m (m.collect request (before ++ after))
  | return {m : Machine κ} :
      m.phase = .joining → m.running = [] → m.ended = [] → Step m { m with phase := .returned }

/-- What some steps lead to. -/
abbrev Reaches : Machine κ → Machine κ → Prop := Relation.ReflTransGen Step

/-- How many requests were pulled and have not ended. -/
def outstanding (m : Machine κ) : Nat := m.phase.inHand.length + m.running.length

end Machine
end CachePurge.Fanout
