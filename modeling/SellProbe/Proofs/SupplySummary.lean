import SellProbe.Contract.Supply
import SellProbe.Proofs.Contents
import SellProbe.Proofs.Release
import SellProbe.Proofs.Together
import SellProbe.Proofs.WordArithmetic

/-!
# What is burned and what circulates

A summary of a token reads the supply, and then the balances of all burn wallets together. It comes
out exactly if all of these calls are answered with a number. Otherwise the supply's failure
decides, and if there is a supply, the failing reply about a balance that is seen first. The
balances are added up with saturation, and the sum is cut off at the supply. That is the exact sum
cut off at the supply, which is itself a word; so what is burned and what circulates are together
the supply, whatever the wallets are said to hold (`ofChain_conserves`).
-/

namespace SellProbe.Supply

open Outcome (FailsFirst)

def ofBalances (total : Word) (held : List Word) : Supply :=
  summarize total (held.foldl Word.addClamped 0)

/-! ## What a summary says -/

/-- A summary of a total and of what each wallet holds, reckoned with numbers of any size. -/
structure Summarizes (s : Supply) (total : Word) (held : List Word) : Prop where
  total_eq : s.total = total
  burned_eq : s.burned.toNat = min total.toNat (held.map BitVec.toNat).sum
  /-- The sum is one of numbers, so neither part has wrapped around. -/
  conserves : s.circulating.toNat + s.burned.toNat = total.toNat
  rate_eq : if total = 0 then s.burnedRate = 0
    else percentage? s.burned total 1 = some (some s.burnedRate)

variable {total burned : Word} {held : List Word}

theorem rate_eq_iff {rate : Float} :
    (if total = 0 then rate = 0 else percentage? burned total 1 = some (some rate)) ↔
      rate = (shareOf burned total 1000 1).getD 0 := by
  have hscale : percentScale? 1 = some 1000 := by decide
  rw [percentage?_of_scale hscale, shareOf]
  split
  · rfl
  · simp [eq_comm]

theorem toNat_burned_ofBalances (total : Word) (held : List Word) :
    (ofBalances total held).burned.toNat = min total.toNat (held.map BitVec.toNat).sum := by
  have hsum := Word.toNat_foldl_addClamped held 0
  have htotal := total.isLt
  rw [show (0 : Word).toNat = 0 from rfl, Nat.zero_add] at hsum
  rw [ofBalances, summarize]
  dsimp only
  split
  next hle =>
    have hle := BitVec.le_def.1 hle
    omega
  next hlt =>
    have hlt := BitVec.lt_def.1 (BitVec.not_le.1 hlt)
    omega

theorem summarizes_ofBalances (total : Word) (held : List Word) :
    (ofBalances total held).Summarizes total held where
  total_eq := rfl
  burned_eq := toNat_burned_ofBalances total held
  conserves := by
    have hburned := toNat_burned_ofBalances total held
    have hle : (ofBalances total held).burned ≤ total := BitVec.le_def.2 (by omega)
    have hcirculating : (ofBalances total held).circulating =
        total - (ofBalances total held).burned := rfl
    rw [hcirculating, BitVec.toNat_sub_of_le hle]
    omega
  rate_eq := rate_eq_iff.2 rfl

theorem Summarizes.eq {s s' : Supply} (h : s.Summarizes total held)
    (h' : s'.Summarizes total held) : s = s' := by
  have hburned : s.burned = s'.burned :=
    BitVec.eq_of_toNat_eq (h.burned_eq.trans h'.burned_eq.symm)
  have hcirculating : s.circulating = s'.circulating := by
    have hparts := h.conserves.trans h'.conserves.symm
    rw [hburned] at hparts
    exact BitVec.eq_of_toNat_eq (Nat.add_right_cancel hparts)
  have hrate : s.burnedRate = s'.burnedRate := by
    rw [rate_eq_iff.1 h.rate_eq, rate_eq_iff.1 h'.rate_eq, hburned]
  have htotal : s.total = s'.total := h.total_eq.trans h'.total_eq.symm
  cases s
  cases s'
  rw [mk.injEq]
  exact ⟨htotal, hburned, hcirculating, hrate⟩

theorem summarizes_iff {s : Supply} : s.Summarizes total held ↔ s = ofBalances total held := by
  constructor
  · intro h
    exact h.eq (summarizes_ofBalances total held)
  · rintro rfl
    exact summarizes_ofBalances total held

/-! ## The run of a summary -/

section

variable (b : Backend) (seen : Nat → Nat) (profile : Profile) (token : Address)

def supplyTold : Outcome ProbeError Word :=
  (b [] (.call (Contents.totalSupply token))).decode Abi.readUint?

def heldTold : List (Outcome ProbeError Word) :=
  b.answers Abi.readUint? [.call (Contents.totalSupply token)]
    (profile.burnAddresses.map (Contents.balance token))

theorem toExcept_outcome_ofChain :
    ((ofChain seen profile token).run b).outcome.toExcept = (do
      let total ← (supplyTold b token).toExcept
      let held ← ((balances seen token profile.burnAddresses).runWith b.responder
        [.call (Contents.totalSupply token)]).outcome.toExcept
      return ofBalances total held) := by
  rw [Program.run, ofChain, Program.toExcept_outcome_bind, Erc20.totalSupply,
    Erc20.totalSupplyCall_eq, Contract.runWith_query]
  refine bind_congr fun total => ?_
  rw [Program.toExcept_outcome_bind]
  rfl

theorem balances_eq (wallets : List Address) : balances seen token wallets =
    Contract.queryAll Abi.readUint? seen (wallets.map (Contents.balance token)) := by
  rw [balances, funext (Erc20.balanceCall_eq token)]

theorem outcome_ofChain_eq_value_iff {s : Supply} :
    ((ofChain seen profile token).run b).outcome = .value s ↔
      ∃ total held, supplyTold b token = .value total ∧
        heldTold b profile token = held.map .value ∧ s.Summarizes total held := by
  simp only [← Outcome.toExcept_eq_ok_iff, toExcept_outcome_ofChain, bind_eq_ok_iff]
  simp only [Outcome.toExcept_eq_ok_iff, balances_eq, Contract.outcome_queryAll_eq_value_iff,
    summarizes_iff, heldTold]
  constructor
  · rintro ⟨total, htotal, held, hheld, h⟩
    exact ⟨total, held, htotal, hheld, (Except.ok.inj h).symm⟩
  · rintro ⟨total, held, htotal, hheld, rfl⟩
    exact ⟨total, htotal, held, hheld, rfl⟩

theorem toExcept_outcome_ofChain_eq_error_iff {failure : ProbeError ⊕ String} :
    ((ofChain seen profile token).run b).outcome.toExcept = .error failure ↔
      (supplyTold b token).toExcept = .error failure ∨
      (∃ total, supplyTold b token = .value total) ∧
        ∃ place o, FailsFirst seen (heldTold b profile token) place o ∧
          o.toExcept = .error failure := by
  have hpure : ∀ s : Supply, ¬ (pure s : Except (ProbeError ⊕ String) Supply) = .error failure := by
    intro s h
    cases h
  simp only [toExcept_outcome_ofChain, bind_eq_error_iff, hpure, and_false, exists_false, or_false,
    Outcome.toExcept_eq_ok_iff, balances_eq, Contract.toExcept_outcome_queryAll_eq_error_iff,
    heldTold, exists_and_right]

theorem exists_outcome_ofChain_iff :
    (∃ s, ((ofChain seen profile token).run b).outcome = .value s) ↔
      (∃ total, supplyTold b token = .value total) ∧
        ∀ reply ∈ heldTold b profile token, ∃ w, reply = .value w := by
  simp only [outcome_ofChain_eq_value_iff, summarizes_iff]
  constructor
  · rintro ⟨-, total, held, htotal, hheld, -⟩
    refine ⟨⟨total, htotal⟩, fun reply hreply => ?_⟩
    rw [hheld] at hreply
    obtain ⟨w, -, rfl⟩ := List.mem_map.1 hreply
    exact ⟨w, rfl⟩
  · rintro ⟨⟨total, htotal⟩, hvalues⟩
    simp only [← Outcome.toExcept_eq_ok_iff, ← exists_mapM_eq_ok_iff] at hvalues
    obtain ⟨held, hheld⟩ := hvalues
    exact ⟨_, total, held, htotal, mapM_toExcept_eq_ok_iff.1 hheld, rfl⟩

variable {b seen profile token}

/-- Where replies are seen in the order of the calls, the first of all failing calls decides. -/
theorem outcome_ofChain_eq_error_iff_of_monotone (hseen : Monotone seen) {e : ProbeError} :
    ((ofChain seen profile token).run b).outcome = .error e ↔
      ∃ before behind,
        supplyTold b token :: heldTold b profile token = before ++ .error e :: behind ∧
        ∀ reply ∈ before, ∃ w, reply = .value w := by
  rw [← Outcome.toExcept_eq_error_iff, toExcept_outcome_ofChain_eq_error_iff]
  simp only [Outcome.toExcept_eq_error_iff, exists_eq_right]
  rw [Outcome.exists_failsFirst_iff hseen rfl]
  constructor
  · rintro (hsupply | ⟨⟨total, htotal⟩, before, behind, hheld, hbefore⟩)
    · exact ⟨[], _, congrArg (· :: _) hsupply, List.forall_mem_nil _⟩
    · refine ⟨.value total :: before, behind, ?_, List.forall_mem_cons.2 ⟨⟨total, rfl⟩, hbefore⟩⟩
      rw [htotal, hheld, List.cons_append]
  · rintro ⟨_ | ⟨supply, before⟩, behind, hcalls, hbefore⟩
    · exact .inl (List.cons.inj hcalls).1
    · obtain ⟨hsupply, hheld⟩ := List.cons.inj hcalls
      obtain ⟨htotal, hbefore⟩ := List.forall_mem_cons.1 hbefore
      exact .inr ⟨hsupply ▸ htotal, before, behind, hheld, hbefore⟩

end

def twoWallets : Profile :=
  { Probe.sampleProfile with burnAddresses := [FixedBytes.fill 20 1, FixedBytes.fill 20 2] }

def chainOf (first second : Outcome ProbeError Bytes) : Backend := fun history r =>
  match r with
  | .call _ => ([.value (Abi.word 1000), first, second] : List (Outcome ProbeError Bytes)).getD
      history.length second
  | _ => .error .closed

end SellProbe.Supply
