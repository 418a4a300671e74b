/-
  Core/Tokens.lean --- how long a token is good for.

  The token table is shared by all sessions and nothing is ever taken out of it: not
  by a detach, not by the end of a session, not by a new PIN.  `lastIssued` reads a
  token's entry off the history alone, and every reachable table is that of its
  history.  So the two places that examine the table, before a request and before a
  URB, decide by the pairings of the past and the clock.
-/
import FarBus.Core.ReplyMeaning

set_option autoImplicit false

namespace FarBus.Core

open FarBus.Foundation
open FarBus.Protocol

/-- The owner and the expiry that the latest pairing to draw `token` gave it. -/
def lastIssued (token : Bytes32) (history : ServerHistory) : Option (PeerFingerprint × Instant) :=
  history.findSome? (issuedIn token)

/-- `token` was last drawn in a pairing of `owner`, no more than `TOKEN_TTL` before `now`. -/
def Honoured (history : ServerHistory) (now : Instant) (token : Bytes32)
    (owner : PeerFingerprint) : Prop :=
  ∃ expires, lastIssued token history = some (owner, expires) ∧ now ≤ expires

section

variable {platform : Platform} {start w w' : World} {act : Action} {history later : ServerHistory}
  {t : Transition World Action} {s : Nat} {session : Session} {token : Bytes32}
  {owner : PeerFingerprint} {expires : Instant}

theorem issuedIn_eq_some (h : issuedIn token t = some (owner, expires)) :
    ∃ s draw req, t.act = .advance s draw ∧ draw.token = token ∧ Enters s (.issuing req) t ∧
      req.clientFingerprint = owner ∧ expires = t.pre.now + TOKEN_TTL := by
  unfold issuedIn at h
  split at h
  · rename_i s draw hact
    split at h
    · rename_i req hpc
      obtain ⟨session, mem, hpc⟩ := Option.map_eq_some_iff.mp hpc
      split at h
      · rename_i htoken
        cases h
        exact ⟨s, draw, req, hact, htoken, ⟨draw, session, hact, mem, hpc⟩, rfl, rfl⟩
      · cases h
    · cases h
  · cases h

/-- A section other than that of a pairing issues nothing. -/
theorem issuedIn_eq_none {draw : Draw} (mem : w.sessions[s]? = some session)
    (hpc : ∀ req, session.pc ≠ .issuing req) :
    issuedIn token ⟨w, .advance s draw, w'⟩ = none := by
  simp only [issuedIn, mem, Option.map_some]
  split
  · rename_i req hissuing
    exact absurd (Option.some.inj hissuing) (hpc req)
  · rfl

theorem Session.AdvanceCases.issuing {now : Instant} {draw : Draw} {server : ServerState}
    {outcome : Outcome} {req : PairRequest}
    (h : session.AdvanceCases platform now draw server s outcome) (pc : session.pc = .issuing req) :
    outcome.server.tokens =
      server.tokens.insert draw.token (req.clientFingerprint, now + TOKEN_TTL) := by
  cases h with
  | issued pc' =>
      cases pc.symm.trans pc'
      rfl
  | replied pc' | pinAccepted pc' | pinRefused pc' | paired pc' | tokenUnknown pc'
  | tokenRefused pc' | tokenAccepted pc' | authorizedDevices pc' | authorizedAttach pc'
  | authorizedDetach pc' | listed pc' | attachUnknown pc' | attached pc' | detached pc'
  | tokensExamined pc' | urbLeased pc' | urbRefused pc' | urbAbsent pc' | urbPresent pc'
  | urbSpawned pc' | unlinked pc' =>
      cases pc.symm.trans pc'

/-- A step of the server writes in the token table what it issues, and no more. -/
theorem World.step_tokens_lookup (taken : w.step platform act = some w') :
    w'.server.tokens[token]? = (issuedIn token ⟨w, act, w'⟩).or w.server.tokens[token]? := by
  cases World.step_cases taken with
  | @advance index session draw outcome mem entered =>
      have entered := Session.advance_cases entered
      by_cases hpc : ∃ req, session.pc = .issuing req
      · obtain ⟨req, pc⟩ := hpc
        rw [issuedIn_issuing mem pc]
        simp only [entered.issuing pc, Std.ExtTreeMap.getElem?_insert, Std.compare_eq_iff_eq]
        split <;> rfl
      · have hnone := fun req pc => hpc ⟨req, pc⟩
        rw [issuedIn_eq_none mem hnone, Option.none_or]
        rcases entered.tokens with hsame | ⟨req, pc, -⟩
        · exact congrArg (fun tokens => tokens[token]?) hsame
        · exact absurd pc (hnone req)
  | tick | refreshHostDevices | renewExpiredPin | accept | recv | eof | write | fail | joined
  | release | task => exact (Option.none_or).symm

/-- The token table is that of the history, in every reachable state. -/
theorem tokens_eq_lastIssued (hstart : World.Starting platform start)
    (run : World.Runs platform start history w) (token : Bytes32) :
    w.server.tokens[token]? = lastIssued token history := by
  induction run with
  | nil => exact hstart.tokens token
  | @snoc history pre post act run taken ih =>
      rw [World.step_tokens_lookup taken, ih, lastIssued, lastIssued, List.findSome?_cons]
      cases issuedIn token ⟨pre, act, post⟩ <;> rfl

/-- Nothing but another pairing that draws the same token takes it away. -/
theorem Honoured.of_issued {earlier : ServerHistory}
    (issued : issuedIn token t = some (owner, expires))
    (hlater : ∀ u ∈ later, issuedIn token u = none) {now : Instant} (unexpired : now ≤ expires) :
    Honoured (later ++ t :: earlier) now token owner := by
  refine ⟨expires, ?_, unexpired⟩
  rw [lastIssued, List.findSome?_append, List.findSome?_eq_none_iff.mpr hlater, Option.none_or,
    List.findSome?_cons, issued]

/-! ## The two checks -/

/-- Before a request: the fingerprint of the session's `Hello` against the token. -/
theorem Session.advance_authorizing {now : Instant} {draw : Draw} {server : ServerState}
    {req : TokenRequest} (pc : session.pc = .authorizing req) :
    ∃ outcome, session.advance platform now draw server s = some outcome ∧
      ((∃ owner expires, outcome.session.pc = .authorized req owner ∧
          server.tokens[req.authToken]? = some (owner, expires) ∧ session.peer = some owner ∧
          now ≤ expires) ∨
        ((∃ detail, outcome.session.pc = sendError .unauthorized detail) ∧
          ∀ owner expires, server.tokens[req.authToken]? = some (owner, expires) →
            session.peer = some owner → ¬ now ≤ expires)) := by
  simp only [Session.advance, pc]
  cases hlookup : server.tokens[req.authToken]? with
  | none => exact ⟨_, rfl, .inr ⟨⟨_, rfl⟩, fun _ _ => nofun⟩⟩
  | some entry =>
      obtain ⟨owner, expires⟩ := entry
      by_cases hrefused : session.peer ≠ some owner ∨ now > expires
      · refine ⟨_, if_pos hrefused, .inr ⟨⟨_, rfl⟩, ?_⟩⟩
        intro owner' expires' heq hpeer unexpired
        cases heq
        rcases hrefused with hne | hexpired
        · exact hne hpeer
        · exact not_lt_of_ge unexpired hexpired
      · refine ⟨_, if_neg hrefused, .inl ?_⟩
        rw [not_or, not_not, not_lt] at hrefused
        exact ⟨owner, expires, rfl, rfl, hrefused⟩

/-- Before a URB: any unexpired token of the principal will do. -/
theorem Session.advance_urbTokens {now : Instant} {draw : Draw} {server : ServerState}
    {urb : UrbSubmit} (pc : session.pc = .urbTokens urb owner) :
    ∃ outcome active, session.advance platform now draw server s = some outcome ∧
      outcome.session.pc = .urbLease urb owner active ∧
      (active = true ↔ ∃ (token : Bytes32) (expires : Instant),
        server.tokens[token]? = some (owner, expires) ∧ now ≤ expires) := by
  simp only [Session.advance, pc]
  refine ⟨_, _, rfl, rfl, ?_⟩
  simp only [List.any_eq_true, Bool.and_eq_true, decide_eq_true_eq]
  constructor
  · rintro ⟨⟨token, peer, expires⟩, hentry, rfl, unexpired⟩
    exact ⟨token, expires, Std.ExtTreeMap.mem_toList_iff_getElem?_eq_some.mp hentry, unexpired⟩
  · rintro ⟨token, expires, hlookup, unexpired⟩
    exact ⟨(token, owner, expires), Std.ExtTreeMap.mem_toList_iff_getElem?_eq_some.mpr hlookup, rfl,
      unexpired⟩

/-- A section that can be entered is entered by a step of the server. -/
theorem World.step_advance {draw : Draw} {outcome : Outcome} (mem : w.sessions[s]? = some session)
    (entered : session.advance platform w.now draw w.server s = some outcome) :
    ∃ w', w.step platform (.advance s draw) = some w' ∧ w'.sessions[s]? = some outcome.session := by
  refine ⟨{ (w.setSession s outcome.session) with
    server := outcome.server, tasks := w.tasks ++ outcome.spawned.toList }, ?_,
    lookup_set_self mem outcome.session⟩
  simp only [World.step, mem, entered, Option.bind_eq_bind, Option.bind_some]

/-- How long a token is good for.  In every run, a request is let through if and only if its
token was last drawn in a pairing of the fingerprint of the session's latest `Hello`, at most
24 hours before, and is answered with an error otherwise; a URB passes the token check if and
only if some token was so drawn for the session's principal; and a token that a client was
told was drawn for the fingerprint of its `Hello`, and is good until it expires or the same
bytes are drawn again, whatever else the server does. -/
theorem tokens_honoured (hstart : World.Starting platform start)
    (run : World.Runs platform start history w) :
    (∀ (s : Nat) (session : Session) req draw, w.sessions[s]? = some session → session.pc = .authorizing req →
      ∃ w' session', w.step platform (.advance s draw) = some w' ∧
        w'.sessions[s]? = some session' ∧
        (∀ owner, session'.pc = .authorized req owner ↔
          latestHello s history = some owner ∧ Honoured history w.now req.authToken owner) ∧
        ((∀ owner, session'.pc ≠ .authorized req owner) →
          ∃ detail, session'.pc = sendError .unauthorized detail)) ∧
    (∀ (s : Nat) (session : Session) urb owner draw, w.sessions[s]? = some session →
      session.pc = .urbTokens urb owner →
      ∃ w' session' active, w.step platform (.advance s draw) = some w' ∧
        w'.sessions[s]? = some session' ∧ session'.pc = .urbLease urb owner active ∧
        (active = true ↔ ∃ token, Honoured history w.now token owner)) ∧
    (∀ later t earlier s response, history = later ++ t :: earlier →
      Sends s (.pairResponse response) t → response.success = true →
      ∃ owner expires since u before, latestHello s earlier = some owner ∧
        history = since ++ u :: before ∧
        issuedIn response.authToken u = some (owner, expires) ∧
        ((∀ v ∈ since, issuedIn response.authToken v = none) → w.now ≤ expires →
          Honoured history w.now response.authToken owner)) := by
  have htokens := tokens_eq_lastIssued hstart run
  refine ⟨?_, ?_, ?_⟩
  · intro s session req draw mem pc
    have hpeer := ((provenance hstart run).session s session mem).peer
    obtain ⟨outcome, entered, hcases⟩ := Session.advance_authorizing pc
    obtain ⟨w', taken, mem'⟩ := World.step_advance mem entered
    refine ⟨w', outcome.session, taken, mem', ?_, ?_⟩
    · intro owner
      rw [← hpeer]
      rcases hcases with ⟨owner', expires, hpc, hlookup, hsame, unexpired⟩ | ⟨⟨detail, hpc⟩, hbad⟩
      · rw [hpc]
        constructor
        · intro heq
          cases heq
          exact ⟨hsame, expires, by rw [← htokens, hlookup], unexpired⟩
        · rintro ⟨hhello, -⟩
          rw [Option.some.inj (hsame.symm.trans hhello)]
      · rw [hpc]
        constructor
        · nofun
        · rintro ⟨hhello, expires, hissued, unexpired⟩
          rw [← htokens] at hissued
          exact absurd unexpired (hbad owner expires hissued hhello)
    · intro hrefused
      rcases hcases with ⟨owner, -, hpc, -⟩ | ⟨herror, -⟩
      · exact absurd hpc (hrefused owner)
      · exact herror
  · intro s session urb owner draw mem pc
    obtain ⟨outcome, active, entered, hpc, hactive⟩ := Session.advance_urbTokens pc
    obtain ⟨w', taken, mem'⟩ := World.step_advance mem entered
    refine ⟨w', outcome.session, active, taken, mem', hpc, hactive.trans ?_⟩
    simp only [Honoured, htokens]
  · intro later t earlier s response hcut hsends hsuccess
    subst hcut
    obtain ⟨req, ⟨-, hhello, -⟩, u, hu, expires, hissued⟩ : ∃ req,
        Issued platform s earlier req response.authToken := by
      have hentered := hsends.enters run.cut.2.1 fun _ => nofun
      rcases hentered.means hstart run with ⟨-, hissued⟩ | ⟨hfailure, -⟩
      · exact hissued
      · rw [hsuccess] at hfailure
        cases hfailure
    obtain ⟨between, before, hbefore⟩ := List.append_of_mem (mem_of_mem_sinceRequest hu)
    have hwhole : later ++ t :: earlier = (later ++ t :: between) ++ u :: before := by
      rw [hbefore, List.append_assoc, List.cons_append]
    refine ⟨_, expires, later ++ t :: between, u, before, hhello, hwhole, hissued, ?_⟩
    intro hsince unexpired
    rw [hwhole]
    exact .of_issued hissued hsince unexpired

end

/-! The session that paired asks for the devices. -/

namespace Sample

def listRequest : TokenRequest := .devices { authToken := (draw 9).token }

/-- Session `s` is about to look up the token of `req`. -/
def looksUp (w : World) (s : Nat) (req : TokenRequest) : Bool :=
  match (w.sessions[s]?).map Session.pc with
  | some (.authorizing req') => req' = req
  | _ => false

theorem authorizing_of_looksUp {w : World} {s : Nat} {req : TokenRequest}
    (h : looksUp w s req = true) :
    ∃ session, w.sessions[s]? = some session ∧ session.pc = .authorizing req := by
  unfold looksUp at h
  split at h
  · rename_i req' hpc
    obtain ⟨session, mem, hpc⟩ := Option.map_eq_some_iff.mp hpc
    rw [of_decide_eq_true h] at hpc
    exact ⟨session, mem, hpc⟩
  · cases h

def paired : List Action := pair 0 peer 9 ++ [.recv 0 listRequest.message]

end Sample

theorem sample_tokens_honoured :
    ∃ w', ((Sample.after Sample.paired).2.step Sample.platform (.advance 0 (Sample.draw 0)) = some w') ∧
      ∃ session, w'.sessions[0]? = some session ∧
        session.pc = .authorized Sample.listRequest Sample.peer := by
  have run := Sample.runs Sample.paired
  have hlooksUp : Sample.looksUp (Sample.after Sample.paired).2 0 Sample.listRequest = true := by
    decide +kernel
  obtain ⟨session, mem, pc⟩ := Sample.authorizing_of_looksUp hlooksUp
  obtain ⟨w', session', taken, mem', hauthorized, -⟩ :=
    (tokens_honoured Sample.starting run).1 0 session Sample.listRequest (Sample.draw 0) mem pc
  refine ⟨w', taken, session', mem', (hauthorized Sample.peer).mpr ⟨by decide +kernel, ?_⟩⟩
  exact ⟨TOKEN_TTL, by decide +kernel, by decide +kernel⟩

end FarBus.Core
