/-
  Core/Authorization.lean --- who may do what, over every run of the server.

  The token table, the principal of a session, the lease book and the inventory are
  locked separately and changed by different handlers.  The results here follow a
  token, a reply or an admitted URB back to the requests that warrant it.
-/
import FarBus.Core.History

set_option autoImplicit false

namespace FarBus.Core

open FarBus.Foundation
open FarBus.Protocol

section

variable {platform : Platform} {start w : World} {history later earlier : ServerHistory}
  {t : Transition World Action}

theorem World.Starting.leases (h : World.Starting platform start) (device : DeviceId) :
    start.server.leases.owner device = none := by
  cases h <;> exact LeaseBook.owner_empty device

theorem World.Starting.tokens (h : World.Starting platform start) (token : Bytes32) :
    start.server.tokens[token]? = none := by
  cases h <;> exact Std.ExtTreeMap.getElem?_empty

/-- The provenance of the state before a transition of the run. -/
theorem provenance_before (hstart : World.Starting platform start)
    (run : World.Runs platform start (later ++ t :: earlier) w) :
    Provenance platform earlier t.pre :=
  provenance hstart run.cut.1

theorem Enters.justified {s : Nat} {pc : Pc} (h : Enters s pc t)
    (hprov : Provenance platform earlier t.pre) : Justified platform s earlier pc := by
  obtain ⟨draw, session, -, found, hpc⟩ := h
  rw [← hpc]
  exact (hprov.session s session found).pc

/-! ## Leases come from attach requests -/

/-- A lease that a step creates is created by an attach section. -/
theorem attachProcessed_of_acquired {w w' : World} {act : Action}
    (taken : w.step platform act = some w') {device : DeviceId} {peer : PeerFingerprint}
    (hbefore : w.server.leases.owner device ≠ some peer)
    (hafter : w'.server.leases.owner device = some peer) :
    ∃ s, AttachProcessed s device peer ⟨w, act, w'⟩ := by
  obtain ⟨hchange, -⟩ := World.step_acquired taken hbefore hafter
  cases hchange with
  | attached draw mem pc get exported => exact ⟨_, ⟨draw, _, rfl, mem, pc⟩, _, get, exported⟩

/-- Every lease was created by an attach request, served for a token of its owner while
the device was present and exported, and has been held since. -/
theorem lease_created (hstart : World.Starting platform start)
    (run : World.Runs platform start history w) {device : DeviceId} {peer : PeerFingerprint}
    (hlease : w.server.leases.owner device = some peer) :
    ∃ later t earlier s req, history = later ++ t :: earlier ∧
      AttachProcessed s device peer t ∧ req.deviceId = device ∧
      Authorized s earlier (.attach req) peer ∧
      t.post.server.leases.owner device = some peer ∧
      ∀ u ∈ later, u.pre.server.leases.owner device = some peer ∧
        u.post.server.leases.owner device = some peer := by
  have hnone : ¬ start.server.leases.owner device = some peer := by
    rw [hstart.leases]
    nofun
  obtain ⟨later, t, earlier, rfl, hbefore, hafter, hsince⟩ :=
    run.established (fun w => w.server.leases.owner device = some peer) hnone hlease
  obtain ⟨s, hattach⟩ := attachProcessed_of_acquired run.cut.2.1 hbefore hafter
  obtain ⟨req, hdevice, hauth⟩ := hattach.1.justified (provenance_before hstart run)
  exact ⟨later, t, earlier, s, req, rfl, hattach, hdevice, hauth, hafter, hsince⟩

/-! ## Admission of a URB -/

theorem mem_of_mem_sinceRequest {s : Nat} {u : Transition World Action}
    (h : u ∈ sinceRequest s history) : u ∈ history := by
  induction history with
  | nil => exact h
  | cons t earlier ih =>
      unfold sinceRequest at h
      split at h
      · split at h
        · cases h
        · rcases List.mem_cons.mp h with rfl | h
          · exact List.mem_cons_self
          · exact List.mem_cons_of_mem _ (ih h)
      · rcases List.mem_cons.mp h with rfl | h
        · exact List.mem_cons_self
        · exact List.mem_cons_of_mem _ (ih h)

/-- A URB is admitted at the end of its checks. -/
theorem Admits.enters {s : Nat} {urb : UrbSubmit} (h : Admits s urb t)
    (taken : t.pre.step platform t.act = some t.post) :
    ∃ owner presence, Enters s (.urbSlot urb owner presence) t := by
  obtain ⟨⟨draw, hact⟩, hspawned⟩ := h
  obtain ⟨task, hfound, hurb⟩ := Option.map_eq_some_iff.mp hspawned
  have hnone : t.pre.tasks[t.pre.tasks.length]? = none := List.getElem?_eq_none (Nat.le_refl _)
  rcases World.step_task taken hfound with hold | ⟨old, _, _, _, hold, _⟩ |
    ⟨s', draw', session, urb', owner, presence, hact', mem, pc, rfl⟩
  · rw [hnone] at hold
    cases hold
  · rw [hnone] at hold
    cases hold
  · rw [hact] at hact'
    cases hact'
    subst hurb
    exact ⟨owner, presence, draw, session, hact, mem, pc⟩

/-- URB admission is authorised.  When a session admits a URB it has a principal, set
earlier in this session by an accepted pairing or by a request with a good token,
under that peer as latest `Hello`; when the token table was examined for this URB
the peer had an unexpired token; and when the lease book was examined the device
was leased to the peer, by a lease that an attach request had created while the
device was present and exported, and that had been held since. -/
theorem urb_admission_authorised (hstart : World.Starting platform start)
    (run : World.Runs platform start (later ++ t :: earlier) w) {s : Nat} {urb : UrbSubmit}
    (admits : Admits s urb t) :
    ∃ peer,
      (∃ session, t.pre.sessions[s]? = some session ∧ session.principal = some peer) ∧
      Authenticated platform s earlier peer ∧
      lastRequest s earlier = some (.urbSubmit urb) ∧
      (∃ u ∈ sinceRequest s earlier, TokenActive s urb peer u) ∧
      ∃ u ∈ sinceRequest s earlier, LeaseChecked s urb peer u ∧
        ∃ since before, earlier = since ++ u :: before ∧
          ∃ held created beforeCreated s' req, before = held ++ created :: beforeCreated ∧
            AttachProcessed s' urb.deviceId peer created ∧ req.deviceId = urb.deviceId ∧
            Authorized s' beforeCreated (.attach req) peer ∧
            created.post.server.leases.owner urb.deviceId = some peer ∧
            ∀ v ∈ held, v.pre.server.leases.owner urb.deviceId = some peer ∧
              v.post.server.leases.owner urb.deviceId = some peer := by
  have hprov := provenance_before hstart run
  obtain ⟨runBefore, taken, -⟩ := run.cut
  obtain ⟨peer, presence, henters⟩ := admits.enters taken
  obtain ⟨hrequest, hactive, u, hu, hchecked⟩ := henters.justified hprov
  obtain ⟨draw, session, -, mem, pc⟩ := henters
  have hsession := hprov.session s session mem
  have hprincipal : session.principal = some peer := by
    apply hsession.actsFor
    rw [pc]
    rfl
  refine ⟨peer, ⟨session, mem, hprincipal⟩, hsession.principal peer hprincipal, hrequest, hactive,
    u, hu, hchecked, ?_⟩
  -- the lease found at `u` has a history of its own
  obtain ⟨since, before, rfl⟩ := List.append_of_mem (mem_of_mem_sinceRequest hu)
  obtain ⟨held, created, beforeCreated, s', req, hcut, hcreated⟩ :=
    lease_created hstart runBefore.cut.1 hchecked.2
  exact ⟨since, before, rfl, held, created, beforeCreated, s', req, hcut, hcreated⟩

end

/-! A first session, from `Hello` to an admitted URB, on which the results can be
looked at.  The digest is that of the PIN `100000` for this server. -/

namespace Sample

def serverFingerprint : PeerFingerprint := Vector.replicate 32 0xaa

def peer : PeerFingerprint := Vector.replicate 32 1

def pinHash : Bytes32 :=
  #v[0xb1, 0x9e, 0x06, 0xa1, 0x13, 0x86, 0x82, 0xe6, 0x2d, 0x36, 0x24, 0xa6, 0x12, 0x59, 0x1f,
    0x31, 0x49, 0x7a, 0xdd, 0x70, 0x83, 0xe5, 0x40, 0xa5, 0xb7, 0x9e, 0x74, 0x1e, 0xb1, 0x8a,
    0xc4, 0x91]

def platform : Platform := { sha256 := fun _ => pinHash, debug := fun _ => "" }

def device : LocalDevice :=
  { info :=
      { id := 1, busId := "1-1.2", vid := 0x046d, pid := 0xc31c, usbClass := 3, speed := .low
        product := "keyboard", exported := true, interfaces := [] }
    backend := .emulated }

def start : World := .initial (.new platform "server" serverFingerprint [device] 0 0) 0

theorem starting : World.Starting platform start := .new _ _ _ _ _

/-- What a list of actions leads to. -/
def after (acts : List Action) : ServerHistory × World :=
  replay (World.step platform) acts ([], start)

theorem runs (acts : List Action) : World.Runs platform start (after acts).1 (after acts).2 :=
  Run.nil.replay acts

/-- One more action after them. -/
def last (acts : List Action) (act : Action) : Transition World Action :=
  ⟨(after acts).2, act, ((after acts).2.step platform act).getD start⟩

theorem runs_last (acts : List Action) (act : Action)
    (h : ((after acts).2.step platform act).isSome = true) :
    World.Runs platform start (last acts act :: (after acts).1) (last acts act).post :=
  (runs acts).snoc_getD h

/-- Every section of these runs draws the same PIN, and the token `n`. -/
def draw (n : UInt8) : Draw := { pin := 0, token := Vector.replicate 32 n }

/-- Session `s` greets as `peer`, pairs, and is given the token `n`. -/
def pair (s : Nat) (peer : PeerFingerprint) (n : UInt8) : List Action :=
  [.accept, .recv s (.hello { protocolMin := 2, protocolMax := 2, fingerprint := peer, hostname := "" }),
    .advance s (draw n),
    .recv s (.pairRequest { clientFingerprint := peer, pinHash, clientName := "" }),
    .advance s (draw n), .advance s (draw n), .advance s (draw n), .advance s (draw n)]

/-- Session `s` attaches the device with the token `n`. -/
def attach (s : Nat) (n : UInt8) : List Action :=
  [.recv s (.attachRequest { deviceId := 1, authToken := Vector.replicate 32 n }),
    .advance s (draw n), .advance s (draw n), .advance s (draw n), .advance s (draw n)]

def urb : UrbSubmit :=
  { seq := 7, deviceId := 1, endpoint := 0, transfer := .control, requestedLength := 0, data := [] }

/-- Session `s` submits the URB, up to its last check. -/
def submit (s : Nat) : List Action :=
  [.recv s (.urbSubmit urb), .advance s (draw 0), .advance s (draw 0), .advance s (draw 0)]

/-- libusb has no context. -/
def io : TaskIo :=
  { custom := { seq := 0, status := 0, data := [] }
    libusb := { context := false, devices := none, read := none, write := false }
    panicked := false }

/-- The URB of a paired and attached session, about to be admitted. -/
def admissible : List Action := pair 0 peer 9 ++ attach 0 9 ++ submit 0

end Sample

theorem sample_urb_admission_authorised :
    ∃ w t earlier, World.Runs Sample.platform Sample.start (t :: earlier) w ∧
      Admits 0 Sample.urb t ∧
      ∃ peer, Authenticated Sample.platform 0 earlier peer ∧
        ∃ u ∈ sinceRequest 0 earlier, LeaseChecked 0 Sample.urb peer u := by
  have run : World.Runs Sample.platform Sample.start
      ([] ++ Sample.last Sample.admissible (.advance 0 (Sample.draw 0)) :: _) _ :=
    Sample.runs_last _ _ (by decide +kernel)
  have admits : Admits 0 Sample.urb (Sample.last Sample.admissible (.advance 0 (Sample.draw 0))) :=
    ⟨⟨_, rfl⟩, by decide +kernel⟩
  obtain ⟨peer, -, hauth, -, -, u, hu, hchecked, -⟩ :=
    urb_admission_authorised Sample.starting run admits
  exact ⟨_, _, _, run, admits, peer, hauth, u, hu, hchecked⟩

section

variable {platform : Platform} {start w : World} {history later earlier : ServerHistory}
  {t : Transition World Action}

/-! ## Tokens and what they allow -/

theorem Sends.enters {s : Nat} {msg : Message} (h : Sends s msg t)
    (taken : t.pre.step platform t.act = some t.post)
    (hmsg : ∀ result, msg ≠ .urbComplete result) : Enters s (.replying msg) t := by
  obtain ⟨session, session', mem, mem', grown⟩ := h
  rcases World.step_queue taken mem mem' grown with ⟨draw, hact, pc⟩ | ⟨result, heq⟩
  · exact ⟨draw, session, hact, mem, pc⟩
  · exact absurd heq (hmsg result)

/-- Every entry of the token table was inserted by a pairing. -/
theorem token_issued (hstart : World.Starting platform start)
    (run : World.Runs platform start history w) {token : Bytes32} {peer : PeerFingerprint}
    {expires : Instant} (h : w.server.tokens[token]? = some (peer, expires)) :
    ∃ later t earlier s draw req, history = later ++ t :: earlier ∧ t.act = .advance s draw ∧
      draw.token = token ∧ Enters s (.issuing req) t ∧ req.clientFingerprint = peer ∧
      expires = t.pre.now + TOKEN_TTL ∧ Paired platform s earlier req := by
  have hnone : ¬ start.server.tokens[token]? = some (peer, expires) := by
    rw [hstart.tokens]
    nofun
  obtain ⟨later, t, earlier, rfl, hbefore, hafter, -⟩ :=
    run.established (fun w => w.server.tokens[token]? = some (peer, expires)) hnone h
  rcases World.step_tokens run.cut.2.1 with hsame | ⟨s, draw, session, req, hact, mem, pc, hinsert⟩
  · rw [hsame] at hafter
    exact absurd hafter hbefore
  · rw [hinsert, lookup_insert] at hafter
    split at hafter
    · rename_i htoken
      obtain ⟨rfl, rfl⟩ := Prod.mk.inj (Option.some.inj hafter)
      have henters : Enters s (.issuing req) t := ⟨draw, session, hact, mem, pc⟩
      exact ⟨later, t, earlier, s, draw, req, rfl, hact, htoken.symm, henters, rfl, rfl,
        henters.justified (provenance_before hstart run)⟩
    · exact absurd hafter hbefore

/-- Token provenance.  Every entry of the token table was inserted by a pairing under
the latest `Hello` with an accepted PIN hash; every device list, every granted
attach and every lease removed by a detach answers a request whose token was in the
table, unexpired and mapped to the latest `Hello`; and the all-zero token is never
in the table unless it was drawn. -/
theorem token_provenance (hstart : World.Starting platform start)
    (run : World.Runs platform start history w) :
    (∀ (token : Bytes32) peer expires, w.server.tokens[token]? = some (peer, expires) →
      ∃ later t earlier s draw req, history = later ++ t :: earlier ∧ t.act = .advance s draw ∧
        draw.token = token ∧ Enters s (.issuing req) t ∧ req.clientFingerprint = peer ∧
        expires = t.pre.now + TOKEN_TTL ∧ Paired platform s earlier req) ∧
    (∀ later t earlier s, history = later ++ t :: earlier →
      (∀ list, Sends s (.deviceList list) t → ∃ req peer, Authorized s earlier (.devices req) peer) ∧
      (∀ response, Sends s (.attachResponse response) t → response.success = true →
        ∃ req peer, req.deviceId = response.deviceId ∧ Authorized s earlier (.attach req) peer) ∧
      (∀ device peer, DetachProcessed s device peer t →
        ∃ req, req.deviceId = device ∧ Authorized s earlier (.detach req) peer)) ∧
    (∀ later t earlier device peer, history = later ++ t :: earlier →
      t.pre.server.leases.owner device = some peer → t.post.server.leases.owner device ≠ some peer →
      (∃ scanned, t.act = .refreshHostDevices scanned) ∨ (∃ s, t.act = .release s) ∨
        ∃ s, DetachProcessed s device peer t) ∧
    ((∀ t ∈ history, ∀ s draw req, t.act = .advance s draw → Enters s (.issuing req) t →
      draw.token ≠ zeroToken) → w.server.tokens[zeroToken]? = none) := by
  refine ⟨fun token peer expires h => token_issued hstart run h, ?_, ?_, ?_⟩
  · intro later t earlier s hcut
    subst hcut
    have hprov := provenance_before hstart run
    have taken := run.cut.2.1
    refine ⟨?_, ?_, ?_⟩
    · intro list hsends
      exact (hsends.enters taken fun _ => nofun).justified hprov
    · intro response hsends hsuccess
      obtain ⟨req, peer, hdevice, hauth, -⟩ :=
        (hsends.enters taken fun _ => nofun).justified hprov hsuccess
      exact ⟨req, peer, hdevice, hauth⟩
    · intro device peer hdetach
      exact hdetach.justified hprov
  · intro later t earlier device peer hcut hbefore hafter
    subst hcut
    have hrevokes := (World.step_lost_iff run.cut.2.1 hbefore).mp hafter
    generalize hact : t.act = act at hrevokes ⊢
    cases hrevokes with
    | removed scanned mem => exact .inl ⟨scanned, rfl⟩
    | detached draw mem pc => exact .inr (.inr ⟨_, draw, _, hact, mem, pc⟩)
    | ended mem principal => exact .inr (.inl ⟨_, rfl⟩)
  · intro hnonzero
    cases hzero : w.server.tokens[zeroToken]? with
    | none => rfl
    | some entry =>
        obtain ⟨peer, expires⟩ := entry
        obtain ⟨later, t, earlier, s, draw, req, hcut, hact, htoken, henters, -⟩ :=
          token_issued hstart run hzero
        have hmem : t ∈ history := by
          rw [hcut]
          exact List.mem_append_right _ List.mem_cons_self
        exact absurd htoken (hnonzero t hmem s draw req hact henters)

end

theorem sample_token_provenance :
    ∃ history w, World.Runs Sample.platform Sample.start history w ∧
      w.server.tokens[(Sample.draw 9).token]? = some (Sample.peer, TOKEN_TTL) ∧
      ∃ later t earlier s req, history = later ++ t :: earlier ∧ Enters s (.issuing req) t ∧
        req.clientFingerprint = Sample.peer ∧ Paired Sample.platform s earlier req := by
  have run := Sample.runs (Sample.pair 0 Sample.peer 9)
  have htoken : (Sample.after (Sample.pair 0 Sample.peer 9)).2.server.tokens[(Sample.draw 9).token]?
      = some (Sample.peer, TOKEN_TTL) := by
    decide +kernel
  obtain ⟨later, t, earlier, s, draw, req, hcut, -, -, henters, hpeer, -, hpaired⟩ :=
    (token_provenance Sample.starting run).1 _ _ _ htoken
  exact ⟨_, _, run, htoken, later, t, earlier, s, req, hcut, henters, hpeer, hpaired⟩

end FarBus.Core
