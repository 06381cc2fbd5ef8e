import Seev.Lib.Run

/-!
# The external delivery of one notification

One row of `notif_deliveries` and the workers that process it. Every statement touches the row by itself, so
that what a worker does for the other deliveries of its batch only lets time pass. `ClaimDue` and the
statements of `processDelivery` are steps of their own; a worker may stop between any two of them, and what a
pass reads, and the answer of the provider, come with its step. Times are in microseconds.

* `Row.claimDue`: the rows that `ClaimDue` takes, among which none is `processing`.
* `attemptColumns`, `attemptValues`: the two lists of the statement of `InsertAttempt`.
* `Pc`, `exec`: the next statement of a worker in `processDelivery`.
-/

namespace Seev.Gateway.Notification

/-- The status of a delivery. -/
inductive Status where
  | pendingRecipient
  | scheduled
  | processing
  | retryWait
  | delivered
  | suppressed
  | blocked
  | dead
  | cancelled
  deriving DecidableEq, Repr

/-- The external channels; an in-app notification is delivered with its insert. -/
inductive Channel where
  | email
  | push
  deriving DecidableEq, Repr

/-- The mode of a channel in the preferences. -/
inductive Mode where
  | immediate
  | dailyDigest
  | disabled
  deriving DecidableEq, Repr

/-- The columns that decide about the sends, and whether those of the references and of the recipient are set. -/
structure Row where
  channel : Channel
  notificationID : Bool
  endpointID : Bool
  status : Status
  recipientCiphertext : Bool
  attemptCount : ℕ
  nextAttemptAt : Option ℕ
  leaseOwner : Option String
  leaseExpiresAt : Option ℕ
  lastErrorCode : Option String
  deriving DecidableEq, Repr

/-- What the provider answers. -/
structure ProviderResult where
  accepted : Bool
  permanent : Bool
  errorCode : String
  deriving DecidableEq, Repr

/-! ## The statements -/

variable (now : ℕ) (r : Row) (owner : String)

/-- The rows `ClaimDue` may take. -/
def Row.claimDue : Bool :=
  (r.status = .pendingRecipient ∨ r.status = .scheduled ∨ r.status = .retryWait) ∧
    r.nextAttemptAt.all (· ≤ now) ∧ r.leaseExpiresAt.all (· < now)

/-- `ClaimDue` counts the attempt when it takes the row. -/
def Row.claim (lease : ℕ) : Row :=
  { r with
    status := .processing, leaseOwner := some owner, leaseExpiresAt := some (now + lease)
    attemptCount := r.attemptCount + 1 }

/-- The recipient is stored, and the row scheduled again. -/
def Row.setRecipientSnapshot : Row :=
  if r.leaseOwner = some owner then
    -- the lease stays, so that the row is due again when it expires
    { r with recipientCiphertext := true, status := .scheduled, nextAttemptAt := some now }
  else r

/-- The statement that ends a pass. -/
inductive Write where
  | finishDelivery
  | retryDelivery (code : String) (next : ℕ)
  | suppressDelivery (code : String)
  | deadDelivery (code : String)
  deriving DecidableEq, Repr

/-- The statement that ends a pass, by the owner of the lease only. -/
def Row.write (x : Write) : Row :=
  if r.leaseOwner = some owner then
    let r := { r with leaseOwner := none, leaseExpiresAt := none }
    match x with
    | .finishDelivery => { r with status := .delivered }
    | .retryDelivery code next =>
      { r with status := .retryWait, lastErrorCode := some code, nextAttemptAt := some next }
    | .suppressDelivery code => { r with status := .suppressed, lastErrorCode := some code }
    | .deadDelivery code => { r with status := .dead, lastErrorCode := some code }
  else r

/-- A delivery that has failed starts over. -/
def Row.replayDelivery (next : ℕ) : Row :=
  if r.status = .dead ∨ r.status = .blocked then
    { r with
      status := .scheduled, attemptCount := 0, nextAttemptAt := some next, lastErrorCode := none
      leaseOwner := none, leaseExpiresAt := none }
  else r

/-- The target columns of the `INSERT` of `InsertAttempt`. -/
def attemptColumns : List String :=
  ["id", "delivery_id", "attempt_number", "lease_owner", "provider", "started_at", "finished_at", "result",
    "status_class", "provider_message_id", "error_code", "duration_ms", "response_excerpt"]

/-- The parameters in its `VALUES`, `$1` to `$14`. -/
def attemptValues : List ℕ := [1, 2, 3, 4, 5, 6, 7, 8, 9, 10, 11, 12, 13, 14]

/-- An `INSERT` is refused unless it has one expression for each target column. -/
def insertAttempt : Bool := attemptColumns.length = attemptValues.length

/-! ## A pass -/

/-- The delays before the attempts, in microseconds. -/
def emailRetrySchedule : List ℕ := [0, 60, 300, 1800, 7200, 28800, 86400].map (· * 1000000)

/-- The same for push. -/
def pushRetrySchedule : List ℕ := [0, 30, 120, 600, 3600].map (· * 1000000)

/-- The schedule of a channel. -/
def Channel.delays : Channel → List ℕ
  | .email => emailRetrySchedule
  | .push => pushRetrySchedule

/-- The next delay of the schedule, while it has one. -/
def retryOrDead (code : String) : Write :=
  match r.channel.delays[r.attemptCount]? with
  | some delay => .retryDelivery code (now + delay)
  | none => .deadDelivery code

/-- The code of the provider, or a default. -/
def firstNonEmpty (a b : String) : String := if a ≠ "" then a else b

/-- What a pass finds on its way to the provider. -/
structure Findings where
  /-- `GetNotification` returned it -/
  notification : Bool
  /-- the registry has its kind -/
  kind : Bool
  /-- `effectiveMode`, unless the preferences were not available -/
  mode : Option Mode
  /-- `GetSettings` returned them -/
  settings : Bool
  /-- unless the timezone is invalid -/
  nextAllowedTime : Option ℕ
  /-- there is a contact resolver -/
  contactResolver : Bool
  /-- whether the contact is verified, active and not empty, unless it was not resolved -/
  contact : Option Bool
  encryptionRing : Bool
  seals : Bool
  opens : Bool
  /-- `GetDevice` returned an active one -/
  device : Bool
  deriving DecidableEq, Repr

variable (f : Findings)

/-- The checks of the notification, of the preferences and of the quiet hours. -/
def checkAllowed : Except Write Unit := do
  if r.notificationID then
    if !f.notification then throw (.deadDelivery "notification_missing")
    if !f.kind then throw (.deadDelivery "kind_unknown")
    match f.mode with
    | none => throw (retryOrDead now r "preference_unavailable")
    | some .immediate => pure ()
    | some _ => throw (.suppressDelivery "preference_disabled")
  if !f.settings then throw (retryOrDead now r "settings_unavailable")
  match f.nextAllowedTime with
  | none => throw (.deadDelivery "timezone_invalid")
  | some due => if now + 1000000 < due then throw (.retryDelivery "quiet_hours" due)

/-- The address that the row has no ciphertext of yet. -/
def resolveRecipient : Except Write Unit := do
  if !f.contactResolver then throw (retryOrDead now r "contact_resolver_unavailable")
  match f.contact with
  | none => throw (retryOrDead now r "contact_resolution_failed")
  | some ok => if !ok then throw (.suppressDelivery "contact_unverified")
  if !f.encryptionRing then throw (.deadDelivery "recipient_encryption_unavailable")
  if !f.seals then throw (retryOrDead now r "recipient_encrypt_failed")

/-- The address is decrypted. -/
def openRecipient : Except Write Unit := do
  if !f.encryptionRing then throw (.deadDelivery "recipient_decryption_unavailable")
  if !f.opens then throw (.deadDelivery "recipient_decrypt_failed")

/-- The device has to be there, and its token is decrypted. -/
def openToken : Except Write Unit := do
  if !r.endpointID then throw (.suppressDelivery "device_missing")
  if !f.device then throw (.suppressDelivery "device_inactive")
  if !f.encryptionRing then throw (.deadDelivery "token_decryption_unavailable")
  if !f.opens then throw (.deadDelivery "token_decrypt_failed")

/-- The next statement of a worker. -/
inductive Pc where
  | start
  | setRecipientSnapshot
  | send
  | insertAttempt (result : ProviderResult)
  | write (x : Write)
  /-- the pass is over -/
  | returned
  /-- a crash, or an outage of the database or of the provider -/
  | stopped
  deriving DecidableEq, Repr

/-- A failed check ends the pass with its statement. -/
def Pc.next (pc : Pc) : Except Write Unit → Pc
  | .ok _ => pc
  | .error x => .write x

/-- What a pass does before its send; an address is resolved in a pass of its own. -/
def prepare : Pc :=
  match r.channel with
  | .email =>
    if r.recipientCiphertext then
      Pc.next .send (do checkAllowed now r f; openRecipient f)
    else
      Pc.next .setRecipientSnapshot (do checkAllowed now r f; resolveRecipient now r f)
  | .push => Pc.next .send (do checkAllowed now r f; openToken r f)

/-- The statement for the answer of the provider. -/
def outcome (result : ProviderResult) : Write :=
  if result.accepted then .finishDelivery
  else if result.permanent then .deadDelivery (firstNonEmpty result.errorCode "provider_error")
  else retryOrDead now r (firstNonEmpty result.errorCode "provider_transient")

/-- A worker, from the row that its claim returned on. -/
structure Worker where
  owner : String
  delivery : Row
  pc : Pc
  /-- the provider accepted its send -/
  accepted : Bool
  deriving DecidableEq, Repr

/-- One statement of `processDelivery`, with the row after it. -/
def exec (result : ProviderResult) (p : Worker) : Worker × Row :=
  match p.pc with
  | .start => ({ p with pc := prepare now p.delivery f }, r)
  | .setRecipientSnapshot =>
    ({ p with pc := Pc.next .send (openRecipient f) }, r.setRecipientSnapshot now p.owner)
  | .send => ({ p with pc := .insertAttempt result, accepted := result.accepted }, r)
  | .insertAttempt answer =>
    -- the error of the statement ends the pass before its outcome is written
    ({ p with pc := if insertAttempt then .write (outcome now p.delivery answer) else .returned }, r)
  | .write x => ({ p with pc := .returned }, r.write p.owner x)
  | .returned | .stopped => (p, r)

/-! ## Runs -/

/-- One delivery and its workers. -/
structure World where
  now : ℕ
  row : Row
  workers : List Worker
  /-- the workers that called the provider, in their order -/
  sends : List ℕ
  deriving DecidableEq, Repr

/-- What happens to the delivery. -/
inductive Event where
  | tick (micros : ℕ)
  | claimDue (owner : String) (lease : ℕ)
  /-- the next statement of a worker -/
  | work (k : ℕ) (f : Findings) (result : ProviderResult)
  | stop (k : ℕ)
  | replayDelivery (next : ℕ)
  /-- the erasure of the recipient -/
  | erase
  deriving DecidableEq, Repr

/-- A claim, a statement, a stop or an administrative write. -/
def World.step (w : World) : Event → World
  | .tick micros => { w with now := w.now + micros }
  | .claimDue owner lease =>
    if w.row.claimDue w.now then
      let row := w.row.claim w.now owner lease
      { w with row, workers := w.workers ++ [⟨owner, row, .start, false⟩] }
    else w
  | .work k f result =>
    match w.workers[k]? with
    | none => w
    | some p =>
      { w with
        row := (exec w.now w.row f result p).2
        workers := w.workers.set k (exec w.now w.row f result p).1
        sends := if p.pc = .send then w.sends ++ [k] else w.sends }
  | .stop k =>
    match w.workers[k]? with
    | none => w
    | some p => if p.pc = .returned then w else { w with workers := w.workers.set k { p with pc := .stopped } }
  | .replayDelivery next => { w with row := w.row.replayDelivery next }
  | .erase => { w with row := { w.row with recipientCiphertext := false } }

/-- A delivery that was planned at `now`; one without a template is `blocked`. -/
def World.planned (now : ℕ) (channel : Channel) (notificationID endpointID blocked : Bool) (due : ℕ) : World where
  now
  row :=
    { channel, notificationID, endpointID
      status := if blocked then .blocked else if channel = .email then .pendingRecipient else .scheduled
      recipientCiphertext := false, attemptCount := 0
      nextAttemptAt := if blocked then none else some due
      leaseOwner := none, leaseExpiresAt := none, lastErrorCode := none }
  workers := []
  sends := []

end Seev.Gateway.Notification
