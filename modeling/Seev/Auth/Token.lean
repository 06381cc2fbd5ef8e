import Mathlib.Data.List.AList
import Seev.Lib.Run

/-!
# Refresh tokens

`Login` and `Refresh` issue refresh tokens, `Refresh` rotates the token it is given, and the
closing of a user revokes all of them. Each call is a session that takes one repository
statement at a time, with nothing around them; any session may take the next step.

* `revokeRefreshToken`, `revokeAllForUser`, `insertRefreshToken`: the writes of the repository.
* `Session`: where a call stands.
* `World.step`: one statement, a failure, a crash, or the passing of time.
* `World.redeemed`, `World.ended`: the tokens whose `Refresh` returned a pair, and those a
  finished replay response was meant to end.
-/

namespace Seev.Auth

/-- A UUID, read as a number. -/
abbrev UUID := ℕ

/-- The status of a user. -/
inductive UserStatus where
  | active | disabled | closing | closed
  deriving DecidableEq, Repr

/-- A row of `auth_refresh_tokens`. -/
structure RefreshToken where
  id : UUID
  userID : UUID
  tokenHash : String
  expiresAt : ℕ
  revokedAt : Option ℕ
  replacedBy : Option UUID
  deriving DecidableEq, Repr

/-- What the service is configured with. -/
structure Env where
  /-- the SHA-256 of a token, in hex -/
  hashToken : String → String
  refreshExpiry : ℕ

/-! ## The repository -/

/-- `GetRefreshTokenByHash` -/
def getRefreshTokenByHash (tokens : List RefreshToken) (tokenHash : String) : Option RefreshToken :=
  tokens.find? (·.tokenHash = tokenHash)

/-- `InsertRefreshToken`: the key, the unique hash and the user it names. -/
def insertRefreshToken (users : UUID → Option UserStatus) (tokens : List RefreshToken) (t : RefreshToken) :
    Option (List RefreshToken) :=
  if (tokens.any fun t' => t'.id = t.id ∨ t'.tokenHash = t.tokenHash) ∨ (users t.userID).isNone then none
  else some (tokens ++ [t])

/-- `RevokeRefreshToken`: only a live row changes. -/
def revokeRefreshToken (now : ℕ) (tokens : List RefreshToken) (id : UUID) (replacedBy : UUID) :
    List RefreshToken :=
  tokens.map fun t =>
    if t.id = id ∧ t.revokedAt = none then { t with revokedAt := some now, replacedBy := some replacedBy } else t

/-- `RevokeAllForUser`: the live rows that have not expired. -/
def revokeAllForUser (now : ℕ) (tokens : List RefreshToken) (userID : UUID) : List RefreshToken :=
  tokens.map fun t =>
    if t.userID = userID ∧ t.revokedAt = none ∧ now < t.expiresAt then { t with revokedAt := some now } else t

/-! ## Calls -/

/-- The next statement of a call. After its lookup a `Refresh` carries the row it read. -/
inductive Session where
  /-- `Login`: the user, with the password checked -/
  | loginUser (userID : UUID)
  | loginIssue (userID : UUID)
  /-- `Refresh`: `GetRefreshTokenByHash` -/
  | lookup (token : String)
  /-- the token was revoked: `RevokeAllForUser` -/
  | revokeAll (userID : UUID)
  /-- `GetUserByID` -/
  | user (t : RefreshToken)
  /-- `issueTokensWithID` -/
  | issue (t : RefreshToken)
  /-- `RevokeRefreshToken` -/
  | revoke (t : RefreshToken) (newTokenID : UUID)
  /-- the pair is returned, whether the revocation won or not -/
  | respond (t : RefreshToken)
  /-- the closing of a user: the status, then `RevokeAllForUser` -/
  | close (userID : UUID)
  | closeRevoke (userID : UUID)
  deriving DecidableEq, Repr

/-- The user whose token a `Refresh` has read. -/
def Session.refreshes : Session → Option UUID
  | .revokeAll userID => some userID
  | .user t | .issue t | .revoke t _ | .respond t => some t.userID
  | _ => none

/-- The calls in progress are numbered. -/
abbrev SessionID := ℕ

/-- The tokens of the users, and the calls on them. -/
structure World where
  now : ℕ
  users : UUID → Option UserStatus
  tokens : List RefreshToken
  sessions : AList (fun _ : SessionID => Session)
  /-- the tokens whose `Refresh` returned a pair, in order -/
  redeemed : List UUID
  /-- the tokens of a user that existed when a replay response finished, or were being issued -/
  ended : List UUID
  /-- the calls of `Refresh` that were in progress then -/
  late : List SessionID

/-- Committed tables with no call in progress. -/
def World.idle (now : ℕ) (users : UUID → Option UserStatus) (tokens : List RefreshToken) : World :=
  ⟨now, users, tokens, ∅, [], [], []⟩

/-- The calls that issue or revoke tokens. -/
inductive Call where
  | login (userID : UUID)
  | refresh (token : String)
  | close (userID : UUID)
  deriving DecidableEq, Repr

/-- The first statement of a call. -/
def Call.session : Call → Session
  | .login userID => .loginUser userID
  | .refresh token => .lookup token
  | .close userID => .close userID

/-- The id and the token drawn for a new row. -/
structure Draw where
  id : UUID
  token : String
  deriving DecidableEq, Repr

/-- A call begins, goes on or fails; or the rest of the world moves. -/
inductive Event where
  | start (sid : SessionID) (c : Call)
  | advance (sid : SessionID) (d : Draw)
  /-- the next statement fails, before or after it took effect -/
  | fault (sid : SessionID) (d : Draw) (took : Bool)
  | crash (sid : SessionID)
  /-- an administrator changes the status of a user -/
  | setStatus (userID : UUID) (status : UserStatus)
  | tick (d : ℕ)
  deriving DecidableEq, Repr

namespace World

variable (E : Env) (w : World)

/-- The session goes on, or ends. -/
def set (sid : SessionID) : Option Session → World
  | none => { w with sessions := w.sessions.erase sid, late := w.late.filter (· ≠ sid) }
  | some s => { w with sessions := w.sessions.insert sid s }

/-- The row of a new token. -/
def newToken (userID : UUID) (d : Draw) : RefreshToken :=
  ⟨d.id, userID, E.hashToken d.token, w.now + E.refreshExpiry, none, none⟩

/-- The statement of a session: the tables after it and how the session goes on. An answer of
the repository that the call turns into an error ends it. A token that a late call issues
ends with the others. -/
def exec (sid : SessionID) (d : Draw) : Session → World × Option Session
  | .loginUser userID =>
    (w, if w.users userID = some .active then some (.loginIssue userID) else none)
  | .loginIssue userID =>
    match insertRefreshToken w.users w.tokens (w.newToken E userID d) with
    | none => (w, none)
    | some tokens => ({ w with tokens := tokens }, none)
  | .lookup token =>
    match getRefreshTokenByHash w.tokens (E.hashToken token) with
    | none => (w, none)
    | some t =>
      if t.revokedAt.isSome then (w, some (.revokeAll t.userID))
      else if t.expiresAt < w.now then (w, none)
      else (w, some (.user t))
  | .revokeAll userID => ({ w with tokens := revokeAllForUser w.now w.tokens userID }, none)
  | .user t => (w, if w.users t.userID = some .active then some (.issue t) else none)
  | .issue t =>
    match insertRefreshToken w.users w.tokens (w.newToken E t.userID d) with
    | none => (w, none)
    | some tokens =>
      ({ w with tokens := tokens, ended := if sid ∈ w.late then w.ended ++ [d.id] else w.ended },
        some (.revoke t d.id))
  | .revoke t newTokenID =>
    ({ w with tokens := revokeRefreshToken w.now w.tokens t.id newTokenID }, some (.respond t))
  | .respond _ => (w, none)
  | .close userID =>
    if w.users userID = some .active then
      ({ w with users := Function.update w.users userID (some .closing) }, some (.closeRevoke userID))
    else (w, none)
  | .closeRevoke userID => ({ w with tokens := revokeAllForUser w.now w.tokens userID }, none)

/-- The calls of `Refresh` for a user that are in progress. -/
def inProgress (userID : UUID) : List SessionID :=
  (w.sessions.entries.filter fun x => x.2.refreshes = some userID).map Sigma.fst

/-- What the return of the call, or of its revocation, adds to the logs. -/
def record (w' : World) : Session → World
  | .revokeAll userID =>
    { w' with
      ended := w'.ended ++ (w'.tokens.filter (·.userID = userID)).map RefreshToken.id
      late := w'.late ++ w'.inProgress userID }
  | .respond t => { w' with redeemed := w'.redeemed ++ [t.id] }
  | _ => w'

/-- A number is free for another call when its call is over. -/
def step : Event → World
  | .start sid c => if sid ∈ w.sessions then w else w.set sid (some c.session)
  | .advance sid d =>
    match w.sessions.lookup sid with
    | none => w
    | some s => (record (w.exec E sid d s).1 s).set sid (w.exec E sid d s).2
  | .fault sid d took =>
    match w.sessions.lookup sid with
    | none => w
    | some s => (if took then (w.exec E sid d s).1 else w).set sid none
  | .crash sid => w.set sid none
  | .setStatus userID status =>
    { w with users := Function.update w.users userID ((w.users userID).map fun _ => status) }
  | .tick d => { w with now := w.now + d }

end World

end Seev.Auth
