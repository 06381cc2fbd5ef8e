import Seev.Lib.Result
import Seev.Ledger.Registry

/-!
# Which accounts a processor touches

`buildEntries_touches`: the entries of every processor except `reversal` are on the
accounts of its command. A reversal touches the accounts of the original's entries
(`reversal_touches`), which are its command's accounts because a transaction's
entries never change.
-/

namespace Seev.Ledger

open Lib

variable {E : Env} {db : Db} {bal : Balances} {cmd : ResolvedCommand} {es : List EntryInstruction}

theorem movementWithFee_touches {dn cn fn : String}
    (h : movementWithFee E dn cn fn cmd = .ok es) : TouchesOnly cmd es := by
  unfold movementWithFee at h
  obtain ⟨a, ha, h⟩ := bind_eq_ok.1 h
  obtain ⟨b, hb, h⟩ := bind_eq_ok.1 h
  have ha := ResolvedCommand.account_mem ha
  have hb := ResolvedCommand.account_mem hb
  split at h
  · cases h
    simp [TouchesOnly, ha, hb]
  · rename_i feeID fee hfee
    cases h
    simp [TouchesOnly, ha, hb, (hasFee_mem E hfee).1]

theorem moneyIn_touches (h : (moneyIn E).buildEntries db cmd bal = .ok es) : TouchesOnly cmd es := by
  simp only [moneyIn] at h
  obtain ⟨a, ha, h⟩ := bind_eq_ok.1 h
  obtain ⟨b, hb, h⟩ := bind_eq_ok.1 h
  have ha := ResolvedCommand.account_mem ha
  have hb := ResolvedCommand.account_mem hb
  split at h
  · cases h
    simp [TouchesOnly, ha, hb]
  · rename_i feeID fee hfee
    -- added on top or taken from the amount, the fee leg is on the same account
    split at h <;> cases h <;> simp [TouchesOnly, ha, hb, (hasFee_mem E hfee).1]

theorem transferPocket_touches (h : (transferPocket E).buildEntries db cmd bal = .ok es) :
    TouchesOnly cmd es := by
  simp only [transferPocket] at h
  obtain ⟨a, ha, h⟩ := bind_eq_ok.1 h
  obtain ⟨b, hb, h⟩ := bind_eq_ok.1 h
  have ha := ResolvedCommand.account_mem ha
  have hb := ResolvedCommand.account_mem hb
  split at h <;> cases h <;> simp [TouchesOnly, ha, hb]

/-- A reversal's entries are on accounts of the original's entries. -/
theorem reversal_touches (h : (reversal E).buildEntries db cmd bal = .ok es) :
    ∀ e ∈ es, ∃ o ∈ getEntries db cmd.referenceID, o.accountID = e.accountID := by
  simp only [reversal] at h
  obtain ⟨-, h⟩ := guard_eq_ok.1 h
  split at h
  · cases h
  · cases h
    intro e he
    obtain ⟨o, ho, rfl⟩ := List.mem_map.1 he
    exact ⟨o, ho, rfl⟩

/-- **Every processor but `reversal` posts on its command's accounts only.** -/
theorem buildEntries_touches {t : TxType} {p : TxProcessor} (hp : registry E t = .ok p)
    (ht : t ≠ .reversal) (h : p.buildEntries db cmd bal = .ok es) : TouchesOnly cmd es := by
  cases t <;> simp only [registry, Except.ok.injEq, reduceCtorEq] at hp <;> subst hp
  case moneyIn => exact moneyIn_touches h
  case transferPocket => exact transferPocket_touches h
  case reversal => exact absurd rfl ht
  all_goals first
    | exact movement_touches h
    | exact movementWithFee_touches h

end Seev.Ledger
