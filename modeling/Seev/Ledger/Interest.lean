import Seev.Ledger.Basic
import Seev.Lib.Run

/-!
# Two interest engines

Accounts are registered for interest in two places: `savings_config`, from which the daily job posts
`interest_accrue` transactions, and the enrolments of savings products, whose daily accruals are rows of their
own. The calls come one after the other; what a query answers and what fails is given with the call. Dates are
days of the calendar.

* `World.setConfig`, `World.runDue`: the legacy engine.
* `World.enroll`, `World.runDaily`: the product engine, with the rows it recovers after its own.
* `calculate`: one day's interest, or the code under which the row fails.
-/

namespace Seev.Ledger.Interest

/-! ## Rows -/

/-- A row of `savings_config`. -/
structure SavingsConfig where
  accountID : UUID
  annualRateBps : ℤ
  enabled : Bool
  deriving DecidableEq, Repr

/-- The status of an enrolment. -/
inductive EnrollmentStatus where
  | pending | active | accrualPaused | ended
  deriving DecidableEq, Repr

/-- A row of `savings_enrollments`, with the one row that `CreateEnrollment` adds to its status history. -/
structure Enrollment where
  id : UUID
  productID : UUID
  accountID : UUID
  status : EnrollmentStatus
  effectiveFrom : ℤ
  effectiveUntil : Option ℤ
  carryNumerator : ℤ
  carryDenominator : ℤ
  deriving DecidableEq, Repr

/-- The status of a daily accrual. -/
inductive AccrualStatus where
  | pending | processing | completedZero | completedPosted | retryWait | blocked | failed | adjusted
  deriving DecidableEq, Repr

/-- What `SaveDailyCalculation` writes, and the balance the interest is on. -/
structure Calculation where
  closingBalance : ℤ
  eligibleBalance : ℤ
  annualRateBps : ℤ
  exactNumerator : ℤ
  openingCarry : ℤ
  recognizedAmount : ℤ
  closingCarry : ℤ
  deriving DecidableEq, Repr

/-- A row of `interest_daily_accruals`; its key is the enrolment and the date. -/
structure Accrual where
  enrollmentID : UUID
  accountID : UUID
  date : ℤ
  status : AccrualStatus
  calculation : Option Calculation
  deriving DecidableEq, Repr

/-- The two registrations and what was accrued. -/
structure World where
  configs : List SavingsConfig
  enrollments : List Enrollment
  accruals : List Accrual
  /-- the `interest_accrue` transactions, by account and date, which is their idempotency key -/
  posted : List (UUID × ℤ)

/-! ## The legacy engine -/

/-- One is so many basis points. -/
def bpsDenominator : ℤ := 10000

/-- Every year counts as 365 days. -/
def daysPerYear : ℤ := 365

/-- `DailyInterest` -/
def dailyInterest (balance : Decimal) (annualRateBps : ℤ) : ℤ :=
  if balance ≤ 0 ∨ annualRateBps ≤ 0 then 0
  else (balance * annualRateBps / bpsDenominator / daysPerYear).floor

/-- What comes of a post: `lost` has committed, but its answer does not arrive. -/
inductive Posting where
  | posts | fails | lost
  deriving DecidableEq, Repr

namespace World

variable (w : World)

/-- `SetConfig`: an upsert by account. -/
def setConfig (accountID : UUID) (annualRateBps : ℤ) (enabled : Bool) : Except String World :=
  if accountID = UUID.nil then .error "account_id is required"
  else if annualRateBps < 0 ∨ 2000 < annualRateBps then .error "annual_rate_bps must be between 0 and 2000"
  else .ok { w with
    configs := w.configs.filter (·.accountID ≠ accountID) ++ [⟨accountID, annualRateBps, enabled⟩] }

/-- A transaction with the key of this account and date is posted once. -/
def post (key : UUID × ℤ) : World := if key ∈ w.posted then w else { w with posted := w.posted ++ [key] }

/-- One account of `RunDue`, with the accounts accrued and skipped so far. -/
def runOne (asOf : ℤ) (balance : UUID → Option Decimal) (posting : UUID → Posting) (acc : World × ℕ × ℕ)
    (cfg : SavingsConfig) : World × ℕ × ℕ :=
  match balance cfg.accountID with
  | none => (acc.1, acc.2.1, acc.2.2 + 1)
  | some b =>
    if dailyInterest b cfg.annualRateBps ≤ 0 then (acc.1, acc.2.1, acc.2.2 + 1)
    else match posting cfg.accountID with
      | .posts => (acc.1.post (cfg.accountID, asOf), acc.2.1 + 1, acc.2.2)
      | .fails => (acc.1, acc.2.1, acc.2.2 + 1)
      | .lost => (acc.1.post (cfg.accountID, asOf), acc.2.1, acc.2.2 + 1)

/-- The daily job, over the enabled configurations in order. -/
def runDue (asOf : ℤ) (balance : UUID → Option Decimal) (posting : UUID → Posting) : World × ℕ × ℕ :=
  (w.configs.filter (·.enabled)).foldl (runOne asOf balance posting) (w, 0, 0)

end World

/-! ## Enrolment -/

/-- A savings product. -/
structure Product where
  active : Bool
  currency : Currency
  eligibleAccountTypes : List String
  minimumEligibleBalance : ℤ
  deriving DecidableEq, Repr

/-- The argument of `EnrollSavingsAccount`; `none` and the empty text are what the caller left out. -/
structure Request where
  id : UUID
  productID : UUID
  accountID : UUID
  userID : UUID
  createdBy : String
  status : Option EnrollmentStatus
  mode : String
  effectiveFrom : Option ℤ
  effectiveUntil : Option ℤ
  deriving DecidableEq, Repr

/-- The unique indexes of `savings_enrollments`. -/
def Enrollment.Conflicts (e e' : Enrollment) : Prop :=
  e.id = e'.id ∨ e.productID = e'.productID ∧ e.accountID = e'.accountID ∧
    (e.effectiveFrom = e'.effectiveFrom ∨ e.status ≠ .ended ∧ e'.status ≠ .ended)

instance (e e' : Enrollment) : Decidable (e.Conflicts e') := inferInstanceAs (Decidable (_ ∨ _ ∧ _ ∧ _))

/-- `EnrollSavingsAccount`; `account` is the type and the currency of the user's active account. -/
def World.enroll (w : World) (r : Request) (product : Except String Product)
    (account : Option (String × Currency)) :
    Except String World := do
  if r.productID = UUID.nil ∨ r.accountID = UUID.nil ∨ r.userID = UUID.nil ∨ r.createdBy = "" then
    throw "product, account, user, and created_by are required"
  let p ← product
  if !p.active then throw "savings product is not active"
  let some start := r.effectiveFrom | throw "enrollment effective_from is required"
  if r.effectiveUntil.any (· ≤ start) then throw "invalid enrollment effective window"
  let some (type, currency) := account | throw "savings account is unavailable or not owned by user"
  if currency ≠ p.currency ∨ type ∉ p.eligibleAccountTypes then
    throw "savings account is not eligible for product"
  let status := r.status.getD .active
  if status ≠ .pending ∧ status ≠ .active then throw "enrollment must be created as pending or active"
  if r.mode ≠ "" ∧ r.mode ≠ "monthly_liability_capitalization" then
    throw "C5 enrollment mode must be monthly_liability_capitalization"
  let e : Enrollment := ⟨r.id, r.productID, r.accountID, status, start, r.effectiveUntil, 0, 3650000⟩
  if w.enrollments.any e.Conflicts then throw "create savings enrollment"
  return { w with enrollments := w.enrollments ++ [e] }

/-! ## One day -/

/-- The denominator of the carries. -/
def dailyDenominator : ℤ := bpsDenominator * daysPerYear

/-- Why an accrual was not completed. -/
inductive FailCode where
  | snapshotReadFailed | snapshotMissing | rateMissing | balanceNotInteger | priorAccrualIncomplete
  | carryDenominatorInvalid | calculationInvalid | amountOverflow | postBlocked | postRetry | lookupFailed
  deriving DecidableEq, Repr

/-- `hardBlock` -/
def FailCode.hard : FailCode → Bool
  | .balanceNotInteger | .calculationInvalid | .amountOverflow | .carryDenominatorInvalid | .postBlocked => true
  | _ => false

/-- What the calls of `processClaimedAccrual` answer. -/
structure Answers where
  /-- the closing balance, if there is a snapshot -/
  snapshot : Except Unit (Option Decimal)
  rate : Option ℤ
  /-- `GetCarryBeforeDate` -/
  carry : Except Unit (Option (ℤ × ℤ))
  saves : Bool
  /-- the post of `interest_liability_accrue`, or whether it fails for business reasons -/
  post : Except Bool Unit
  finds : Bool
  completes : Bool
  /-- `FailDailyAccrual` succeeds -/
  recordsFailure : Bool
  /-- the cutoff of the period has passed -/
  cutoff : Bool

/-- `CalculateDaily` -/
def calculateDaily (balance closingBalance annualRateBps carry : ℤ) : Option Calculation :=
  if carry < 0 ∨ dailyDenominator ≤ carry then none
  else if 0 < balance ∧ 0 < annualRateBps then
    let numerator := balance * annualRateBps
    some ⟨closingBalance, balance, annualRateBps, numerator, carry, (carry + numerator) / dailyDenominator,
      (carry + numerator) % dailyDenominator⟩
  else some ⟨closingBalance, balance, annualRateBps, 0, carry, 0, carry⟩

/-- `processClaimedAccrual` up to the calculation. -/
def calculate (e : Enrollment) (minimum : ℤ) (a : Answers) : Except FailCode Calculation := do
  let found ← a.snapshot.mapError fun _ => FailCode.snapshotReadFailed
  let some balance := found | throw .snapshotMissing
  let some rate := a.rate | throw .rateMissing
  let some b := balance.toBigint | throw .balanceNotInteger
  let prior ← a.carry.mapError fun _ => FailCode.priorAccrualIncomplete
  let (carry, denominator) := prior.getD (e.carryNumerator, e.carryDenominator)
  if denominator ≠ dailyDenominator then throw .carryDenominatorInvalid
  let eligible := if b ≤ 0 ∨ 0 < minimum ∧ b < minimum then 0 else b
  let some c := calculateDaily eligible b rate carry | throw .calculationInvalid
  if !Decimal.inInt64 c.recognizedAmount then throw .amountOverflow
  return c

/-! ## The product engine -/

/-- How `accrueOne` gets to the row: the product's minimum, if the product and the period can be read; whether the
period still takes rows; and whether a wait or a lease on the row is over. -/
structure Reach where
  minimum : Option ℤ
  openPeriod : Bool
  due : Bool

namespace World

variable (w : World)

/-- The accrual of an enrolment and date. -/
def find (enrollmentID : UUID) (date : ℤ) : Option Accrual :=
  w.accruals.find? fun r => r.enrollmentID = enrollmentID ∧ r.date = date

/-- The accrual of an enrolment and date is written. -/
def update (enrollmentID : UUID) (date : ℤ) (f : Accrual → Accrual) : World :=
  { w with accruals := w.accruals.map fun r => if r.enrollmentID = enrollmentID ∧ r.date = date then f r else r }

/-- `FailDailyAccrual` -/
def fail (enrollmentID : UUID) (date : ℤ) (status : AccrualStatus) (a : Answers) : World :=
  if !a.recordsFailure then w else w.update enrollmentID date fun r => { r with status := status }

/-- A hard failure, or any after the cutoff, blocks the accrual. -/
def blockOrRetry (enrollmentID : UUID) (date : ℤ) (code : FailCode) (a : Answers) : World :=
  w.fail enrollmentID date (if code.hard ∨ a.cutoff then .blocked else .retryWait) a

/-- `completeDailyAccrual`: the row, and the carry of the enrolment. -/
def complete (enrollmentID : UUID) (date : ℤ) (status : AccrualStatus) (carry : ℤ) (a : Answers) : World :=
  if !a.completes then w
  else { w.update enrollmentID date fun r => { r with status := status } with
    enrollments := w.enrollments.map fun e =>
      if e.id = enrollmentID then { e with carryNumerator := carry, carryDenominator := dailyDenominator }
      else e }

/-- `processClaimedAccrual`, on the row of this enrolment and date. -/
def process (e : Enrollment) (minimum : ℤ) (date : ℤ) (a : Answers) : World :=
  match calculate e minimum a with
  | .error code => w.blockOrRetry e.id date code a
  | .ok c =>
    if !a.saves then w
    else
      let w := w.update e.id date fun r => { r with calculation := some c }
      if c.recognizedAmount = 0 then w.complete e.id date .completedZero c.closingCarry a
      else match a.post with
        | .error business => w.blockOrRetry e.id date (if business then .postBlocked else .postRetry) a
        | .ok () =>
          if !a.finds then w.blockOrRetry e.id date .lookupFailed a
          else w.complete e.id date .completedPosted c.closingCarry a

/-- `ClaimDailyAccrual` and `ClaimDailyAccrualForID` -/
def claimable (r : Accrual) (reach : Reach) : Bool :=
  (r.status = .pending ∨ r.status = .retryWait ∨ r.status = .processing) ∧ reach.due ∧ reach.openPeriod

/-- The accrual is in work. -/
def claim (r : Accrual) : World := w.update r.enrollmentID r.date fun r => { r with status := .processing }

/-- `CreateOrGetDailyAccrual` -/
def create (e : Enrollment) (date : ℤ) (reach : Reach) : World :=
  if (w.find e.id date).isNone ∧ reach.openPeriod then
    { w with accruals := w.accruals ++ [⟨e.id, e.accountID, date, .pending, none⟩] }
  else w

/-- The row of the date is created where it is missing, and processed once claimed. -/
def accrueOne (e : Enrollment) (date : ℤ) (reach : Reach) (a : Answers) : World :=
  match reach.minimum with
  | none => w
  | some minimum =>
    let w := w.create e date reach
    match w.find e.id date with
    | none => w
    | some r => if claimable r reach then (w.claim r).process e minimum date a else w

/-- One row of `recoverPending`: the row keeps its date, and the enrolment is read again. -/
def recoverOne (item : UUID × ℤ × Reach × Answers) : World :=
  match w.find item.1 item.2.1 with
  | none => w
  | some r =>
    if !claimable r item.2.2.1 then w
    else
      match w.enrollments.find? (·.id = item.1), item.2.2.1.minimum with
      | some e, some minimum => (w.claim r).process e minimum item.2.1 item.2.2.2
      -- the enrolment, the product or the period cannot be read
      | _, _ => (w.claim r).fail item.1 item.2.1 .retryWait item.2.2.2

/-- `ListActiveEnrollments`; `eligible` is what it asks of the product and the account. -/
def active (date : ℤ) (eligible : Enrollment → Bool) : List Enrollment :=
  w.enrollments.filter fun e => e.status = .active ∧ eligible e ∧ e.effectiveFrom ≤ date ∧
    e.effectiveUntil.all (date < ·)

/-- The active enrolments in order, and then the accruals left over. -/
def runDaily (date : ℤ) (eligible : Enrollment → Bool) (reach : UUID → Reach) (answers : UUID → Answers)
    (recovered : List (UUID × ℤ × Reach × Answers)) : World :=
  recovered.foldl recoverOne
    ((w.active date eligible).foldl (fun w e => w.accrueOne e date (reach e.id) (answers e.id)) w)

end World

/-! ## Calls -/

/-- A call of one of the two services. -/
inductive Event where
  | setConfig (accountID : UUID) (annualRateBps : ℤ) (enabled : Bool)
  | enroll (r : Request) (product : Except String Product) (account : Option (String × Currency))
  | runDue (asOf : ℤ) (balance : UUID → Option Decimal) (posting : UUID → Posting)
  | runDaily (date : ℤ) (eligible : Enrollment → Bool) (reach : UUID → Reach) (answers : UUID → Answers)
      (recovered : List (UUID × ℤ × Reach × Answers))

/-- No account is registered. -/
def World.empty : World := ⟨[], [], [], []⟩

/-- A call that returns an error changes nothing. -/
def World.step (w : World) : Event → World
  | .setConfig accountID annualRateBps enabled => (w.setConfig accountID annualRateBps enabled).toOption.getD w
  | .enroll r product account => (w.enroll r product account).toOption.getD w
  | .runDue asOf balance posting => (w.runDue asOf balance posting).1
  | .runDaily date eligible reach answers recovered => w.runDaily date eligible reach answers recovered

end Seev.Ledger.Interest
