import CotServer.Model.Recharge.ContractPool
import CotServer.Model.Sample

/-!
# The contract pool

`contractPoolItem` is the item of an asset, written down without the order of the calls. `func` adds
it to the list, or throws with the lookup of the asset details. From `Theory.PromiseAll`:
`getContractPoolInfo` always comes to an end, and `poolInfo` then has the item of every asset whose
lookup has not failed. It is returned exactly when none has.
-/

namespace CotServer.RechargeService

open Async Together

/-! ## The item of an asset -/

section Item

variable (sdk : WalletSdk) (answer : (op : ContractPoolOp) → Except Err op.Ans)

/-- What has been looked up; a lookup that fails counts as zero. -/
def amount : Except Err ContractBalance → Nat
  | .ok { balance, decimal } => sdk.transformDecimalToBCF decimal balance
  | .error _ => 0

/-- What is at a deposit address: in the contract if there is one, and otherwise of the coin. -/
def lookup (chainName : ExternalChainName) (coinDecimal : Nat)
    (inContract : JsString → JsString → Except Err ContractBalance) (info : ExternalAssetInfoItem) :
    Except Err ContractBalance :=
  if truthy info.contract then inContract info.depositAddress (orUndefined info.contract)
  else (answer (.getExternalBalance chainName info.depositAddress)).map fun balance =>
    { balance, decimal := coinDecimal }

/-- A supported chain, and the amount that is deposited there. -/
def deposit (chainName : ExternalChainName) (coinDecimal : Nat)
    (inContract : JsString → JsString → Except Err ContractBalance) (info : ExternalAssetInfoItem) :
    ExternalChainInfo × Nat :=
  ({ chainName, assetType := info.assetType },
    amount sdk (lookup answer chainName coinDecimal inContract info))

/-- The deposit on a chain, if it is supported. -/
def depositOf (chainName : ExternalChainName) (coinDecimal : Nat)
    (inContract : JsString → JsString → Except Err ContractBalance)
    (supported : Option ExternalAssetInfoItem) : List (ExternalChainInfo × Nat) :=
  (supported.map (deposit sdk answer chainName coinDecimal inContract)).toList

/-- The deposits on all supported chains. -/
def deposits (chain : SupportChain) : List (ExternalChainInfo × Nat) :=
  depositOf sdk answer .ETH 18 (fun address contract =>
      answer (.getEthContractBalance address contract)) chain.ETH ++
    depositOf sdk answer .BSC 18 (fun address contract =>
      answer (.getBscContractBalance address contract)) chain.BSC ++
    depositOf sdk answer .TRON 6 (fun address contract =>
      answer (.getTronContractBalance address contract)) chain.TRON

def contractPoolItem (item : RechargeItem) (details : AssetDetails) : RechargeContractPoolItem where
  chainName := item.chainName
  assetType := item.assetType
  externalChainInfo := (deposits sdk answer item.supportChain).map (·.1)
  totalMinted := details.issuedAssetPrealnum
  totalCirculation := details.remainAssetPrealnum
  totalBurned := details.issuedAssetPrealnum - details.remainAssetPrealnum
  totalStaked := ((deposits sdk answer item.supportChain).map (·.2)).sum

end Item

/-- The lookup of the details of an asset. -/
def assetDetails (answers : ContractPoolAnswers) (x : ConfiguredAsset) : Except Err AssetDetails :=
  answers x (.getAssetDetails x.item.chainName x.item.assetType)

/-- The item of an asset, unless its lookup fails. -/
def assetItem (sdk : WalletSdk) (answers : ContractPoolAnswers) (x : ConfiguredAsset) :
    Except Err RechargeContractPoolItem :=
  (assetDetails answers x).map (contractPoolItem sdk (answers x) x.item)

/-! ## `_func` adds the item -/

/-- The deposits `ds` on top of what is staked. -/
def Staked.add (s : Staked) (ds : List (ExternalChainInfo × Nat)) : Staked :=
  (s.1 ++ ds.map (·.1), s.2 + (ds.map (·.2)).sum)

theorem Staked.add_add (s : Staked) (ds es : List (ExternalChainInfo × Nat)) :
    (s.add ds).add es = s.add (ds ++ es) := by
  simp [Staked.add, Nat.add_assoc]

section Func

variable {sdk : WalletSdk} {answer : (op : ContractPoolOp) → Except Err op.Ans}
  {chainName : ExternalChainName} {coinDecimal : Nat}
  {getBalance : JsString → JsString → ContractPoolAsync ContractBalance}
  {inContract : JsString → JsString → Except Err ContractBalance}

/-- A balance never throws. -/
theorem contractBalance_gives
    (hget : ∀ address contract,
      (getBalance address contract).Gives answer (inContract address contract))
    (info : ExternalAssetInfoItem) :
    (contractBalance sdk chainName coinDecimal getBalance info.depositAddress info.contract).Gives
      answer (.ok (amount sdk (lookup answer chainName coinDecimal inContract info))) := by
  unfold contractBalance
  refine Gives.tryCatch (r := (lookup answer chainName coinDecimal inContract info).map fun b =>
    sdk.transformDecimalToBCF b.decimal b.balance) ?_ ?_ ?_
  · unfold lookup
    split
    · refine Gives.bind (hget _ _) (fun e h => ?_) fun b h => ?_
      · rw [h]
        rfl
      · rw [h]
        exact Gives.pure _
    · refine Gives.bind
        (Gives.call answer (ContractPoolOp.getExternalBalance chainName info.depositAddress))
        (fun e h => ?_) fun b h => ?_
      · rw [h]
        rfl
      · rw [h]
        exact Gives.pure _
  · intro n h
    cases hfound : lookup answer chainName coinDecimal inContract info with
    | ok b =>
      rw [hfound] at h
      exact h
    | error e =>
      rw [hfound] at h
      cases h
  · intro e h
    cases hfound : lookup answer chainName coinDecimal inContract info with
    | ok b =>
      rw [hfound] at h
      cases h
    | error e => exact Gives.pure _

theorem addStaked_gives
    (hget : ∀ address contract,
      (getBalance address contract).Gives answer (inContract address contract))
    (supported : Option ExternalAssetInfoItem) (s : Staked) :
    (addStaked chainName (contractBalance sdk chainName coinDecimal getBalance) supported s).Gives
      answer (.ok (s.add (depositOf sdk answer chainName coinDecimal inContract supported))) := by
  cases supported with
  | none => simp [addStaked, depositOf, Staked.add, Gives, pure]
  | some info =>
    refine Gives.bind (contractBalance_gives hget info) (by simp) ?_
    rintro balance h
    cases h
    exact Gives.pure _

/-- `_func` throws when the details cannot be looked up, and adds the item otherwise. -/
theorem func_adds (item : RechargeItem) (chainName assetType : JsString) :
    (func sdk item chainName assetType).Adds answer (fun poolInfo x => poolInfo ++ [x])
      ((answer (.getAssetDetails chainName assetType)).map (contractPoolItem sdk answer item)) := by
  unfold func
  refine Adds.bind (addStaked_gives (fun address contract =>
    Gives.call answer (.getEthContractBalance address contract)) item.supportChain.ETH _) ?_ ?_
  · simp
  rintro _ ⟨⟩
  refine Adds.bind (addStaked_gives (fun address contract =>
    Gives.call answer (.getBscContractBalance address contract)) item.supportChain.BSC _) ?_ ?_
  · simp
  rintro _ ⟨⟩
  refine Adds.bind (addStaked_gives (fun address contract =>
    Gives.call answer (.getTronContractBalance address contract)) item.supportChain.TRON _) ?_ ?_
  · simp
  rintro _ ⟨⟩
  rw [Staked.add_add, Staked.add_add]
  refine Adds.bind (Gives.call answer (.getAssetDetails chainName assetType)) ?_ ?_
  · intro e h
    rw [h]
    rfl
  · intro details h
    rw [h]
    refine ⟨_, rfl, fun poolInfo => ?_⟩
    simp [contractPoolItem, deposits]

end Func

/-! ## Runs -/

section Runs

variable {sdk : WalletSdk} {answers : ContractPoolAnswers} {recharge : RechargeObject}
  {c : ContractPool} {ls : List (Label Empty Unit)}

variable (sdk answers recharge) in
theorem getContractPoolInfo_invariant :
    Invariant answers (fun poolInfo x => poolInfo ++ [x]) (assetItem sdk answers) []
      recharge.assets (getContractPoolInfo sdk recharge) :=
  invariant_start (fun x => func_adds x.item x.item.chainName x.item.assetType) [] recharge.assets

theorem contractPool_invariant
    (hrun : (contractPool answers).run (getContractPoolInfo sdk recharge) ls = some c) :
    Invariant answers (fun poolInfo x => poolInfo ++ [x]) (assetItem sdk answers) []
      recharge.assets c :=
  invariant_run (getContractPoolInfo_invariant sdk answers recharge) hrun

/-- The items of the assets whose lookup has not failed. -/
def otherItems (sdk : WalletSdk) (answers : ContractPoolAnswers) (recharge : RechargeObject) :
    List RechargeContractPoolItem :=
  recharge.assets.filterMap fun x => (assetItem sdk answers x).toOption

/-- At the end of every run, whatever has failed, the items of the others are in the list. -/
theorem poolInfo_perm
    (hrun : (contractPool answers).run (getContractPoolInfo sdk recharge) ls = some c)
    (hend : c.tasks = []) : c.store.store.Perm (otherItems sdk answers recharge) := by
  obtain ⟨order, horder, hstore⟩ := store_eq (contractPool_invariant hrun) hend
  rw [hstore, List.foldl_append_eq_append, ← List.flatMap_def, List.flatMap_singleton',
    List.nil_append]
  exact horder.filterMap _

/-- A list is returned when every lookup has succeeded. -/
theorem contractPoolResult_ok
    (hrun : (contractPool answers).run (getContractPoolInfo sdk recharge) ls = some c)
    {poolInfo : List RechargeContractPoolItem} (h : contractPoolResult c = some (.ok poolInfo)) :
    (∀ x ∈ recharge.assets, ∃ details, assetDetails answers x = .ok details) ∧
      poolInfo.Perm (otherItems sdk answers recharge) := by
  obtain ⟨r, hsettled, hr⟩ := Option.map_eq_some_iff.1 h
  cases r with
  | error e => cases hr
  | ok u =>
    cases hr
    obtain ⟨hnone, hend⟩ := Pool.promiseAll_ok hsettled
    refine ⟨fun x hx => ?_, poolInfo_perm hrun hend⟩
    cases hdetails : assetDetails answers x with
    | ok details => exact ⟨details, rfl⟩
    | error e =>
      have hitem : assetItem sdk answers x = .error e := by
        rw [assetItem, hdetails]
        rfl
      exact absurd hnone (firstError_of_end (contractPool_invariant hrun) hend hx hitem)

/-- What is thrown is the error of a lookup. -/
theorem contractPoolResult_error
    (hrun : (contractPool answers).run (getContractPoolInfo sdk recharge) ls = some c) {e : Err}
    (h : contractPoolResult c = some (.error e)) :
    ∃ x ∈ recharge.assets, assetDetails answers x = .error e := by
  obtain ⟨r, hsettled, hr⟩ := Option.map_eq_some_iff.1 h
  cases r with
  | ok u => cases hr
  | error e =>
    cases hr
    obtain ⟨x, hx, hitem⟩ :=
      exists_of_firstError (contractPool_invariant hrun) (Pool.promiseAll_error.1 hsettled)
    refine ⟨x, hx, ?_⟩
    cases hdetails : assetDetails answers x with
    | ok details =>
      rw [assetItem, hdetails] at hitem
      cases hitem
    | error e' =>
      rw [assetItem, hdetails] at hitem
      cases hitem
      rfl

theorem contractPoolResult_of_end (hend : c.tasks = []) : (contractPoolResult c).isSome := by
  rw [contractPoolResult, Option.isSome_map]
  exact Pool.promiseAll_of_end hend

/-- One failing lookup, and every run throws: the list that `poolInfo_perm` speaks of is lost. -/
theorem exists_error_of_end
    (hrun : (contractPool answers).run (getContractPoolInfo sdk recharge) ls = some c)
    (hend : c.tasks = []) {x : ConfiguredAsset} {e : Err} (hx : x ∈ recharge.assets)
    (he : assetDetails answers x = .error e) : ∃ e', contractPoolResult c = some (.error e') := by
  obtain ⟨r, hr⟩ := Option.isSome_iff_exists.1 (contractPoolResult_of_end hend)
  cases r with
  | error e' => exact ⟨e', hr⟩
  | ok poolInfo =>
    obtain ⟨details, hdetails⟩ := (contractPoolResult_ok hrun hr).1 x hx
    rw [he] at hdetails
    cases hdetails

end Runs

/-- Whatever lookups fail, `getContractPoolInfo` returns the items of the other assets. -/
structure ReturnsOthers (sdk : WalletSdk) (answers : ContractPoolAnswers)
    (recharge : RechargeObject) : Prop where
  /-- No run goes on for ever. -/
  ends : ∃ n, ∀ ls c,
    (contractPool answers).run (getContractPoolInfo sdk recharge) ls = some c → ls.length ≤ n
  /-- A run that cannot go on has returned or thrown. -/
  settles : ∀ ls c, (contractPool answers).run (getContractPoolInfo sdk recharge) ls = some c →
    (∀ l, (contractPool answers).step c l = none) → (contractPoolResult c).isSome
  /-- What has become of a call is a list, and it has the items of the others. -/
  returns : ∀ ls c r, (contractPool answers).run (getContractPoolInfo sdk recharge) ls = some c →
    contractPoolResult c = some r →
    ∃ poolInfo, r = .ok poolInfo ∧ poolInfo.Perm (otherItems sdk answers recharge)

/-- One failing asset hides the others: the pool is returned exactly when no lookup fails. -/
theorem returnsOthers_iff (sdk : WalletSdk) (answers : ContractPoolAnswers)
    (recharge : RechargeObject) :
    ReturnsOthers sdk answers recharge ↔
      ∀ x ∈ recharge.assets, ∃ details, assetDetails answers x = .ok details := by
  have hstart := getContractPoolInfo_invariant sdk answers recharge
  constructor
  · intro h
    obtain ⟨ls, c, hrun, hend⟩ := exists_run_to_end hstart
    obtain ⟨r, hr⟩ := Option.isSome_iff_exists.1 (contractPoolResult_of_end hend)
    obtain ⟨poolInfo, rfl, -⟩ := h.returns ls c r hrun hr
    exact (contractPoolResult_ok hrun hr).1
  · intro hdetails
    refine ⟨⟨_, fun ls c hrun => Nat.le.intro (length_eq hstart hrun)⟩, ?_, ?_⟩
    · intro ls c _ hstuck
      refine contractPoolResult_of_end (by_contra fun htasks => ?_)
      have hnext : ∃ l c', (contractPool answers).step c l = some c' := exists_step htasks
      obtain ⟨l, c', hstep⟩ := hnext
      rw [hstuck l] at hstep
      cases hstep
    · intro ls c r hrun hr
      cases r with
      | ok poolInfo => exact ⟨poolInfo, rfl, (contractPoolResult_ok hrun hr).2⟩
      | error e =>
        obtain ⟨x, hx, he⟩ := contractPoolResult_error hrun hr
        obtain ⟨details, hok⟩ := hdetails x hx
        rw [he] at hok
        cases hok

/-! ## One failure of two -/

def twoAssets : RechargeObject :=
  [(js "BIWMETA", [
    (js "USDT", Sample.item),
    (js "USDM", { Sample.item with assetType := js "USDM" })])]

/-- The details of USDM cannot be looked up. -/
def noUSDM : ContractPoolAnswers := fun _ op =>
  match op with
  | .getEthContractBalance .. => .ok { balance := 1500000, decimal := 6 }
  | .getBscContractBalance .. => .error (.error (js "timeout"))
  | .getTronContractBalance .. => .error (.error (js "timeout"))
  | .getExternalBalance .. => .ok 1500000
  | .getAssetDetails _ assetType =>
    if assetType = js "USDM" then .error (.error (js "timeout"))
    else .ok { issuedAssetPrealnum := 1000, remainAssetPrealnum := 900 }

def hasThrown (c : ContractPool) : Bool :=
  (contractPoolResult c).any fun r =>
    match r with
    | .ok _ => false
    | .error _ => true

/-- USDM comes to its end first, and nothing is returned about USDT. -/
theorem not_returnsOthers :
    ¬ ∀ (sdk : WalletSdk) (answers : ContractPoolAnswers) (recharge : RechargeObject),
      ReturnsOthers sdk answers recharge := by
  intro h
  obtain ⟨c, hrun, hthrown⟩ := (contractPool noUSDM).exists_run
    (getContractPoolInfo Sample.sdk twoAssets) (Program.awaits 1 () 4) hasThrown (by decide +kernel)
  obtain ⟨r, hr, htest⟩ := (Option.any_eq_true _ _).1 hthrown
  obtain ⟨poolInfo, rfl, -⟩ := (h Sample.sdk noUSDM twoAssets).returns _ c r hrun hr
  cases htest

end CotServer.RechargeService
