import CotServer.Model.Config.Writers
import CotServer.Theory.Post
import Mathlib.Data.List.Forall2

/-!
# The loops of the config writers

All writers go through the support entries of a config and put a changed entry in the place of each.
`RechargeObject.entries` lists the entries; the rules below reduce a loop to its body on one entry.
-/

namespace CotServer

open Async

/-- A support entry: its internal chain, its external chain, and the item. -/
structure SupportEntry where
  chainName : JsString
  _chain : ExternalChainName
  item : ExternalAssetInfoItem

/-- One key of a `supportChain`, as a list. -/
def SupportChain.entryList (chainName : JsString) (_chain : ExternalChainName)
    (item : Option ExternalAssetInfoItem) : List SupportEntry :=
  (item.map fun item => ⟨chainName, _chain, item⟩).toList

def SupportChain.entries (chainName : JsString) (c : SupportChain) : List SupportEntry :=
  entryList chainName .ETH c.ETH ++ entryList chainName .BSC c.BSC ++
    entryList chainName .TRON c.TRON

/-- The support entries of a config, in the order of the loops. -/
def RechargeObject.entries (recharge : RechargeObject) : List SupportEntry :=
  recharge.flatMap fun (chainName, assets) =>
    assets.flatMap fun (_, item) => item.supportChain.entries chainName

theorem SupportChain.mem_entries {chainName : JsString} {c : SupportChain} {e : SupportEntry} :
    e ∈ c.entries chainName ↔ e.chainName = chainName ∧ c.get e._chain = some e.item := by
  obtain ⟨ETH, BSC, TRON⟩ := c
  obtain ⟨chainName', _chain, item⟩ := e
  simp only [entries, entryList, List.mem_append, Option.mem_toList, Option.map_eq_some_iff,
    SupportEntry.mk.injEq]
  constructor
  · rintro ((⟨_, h, rfl, rfl, rfl⟩ | ⟨_, h, rfl, rfl, rfl⟩) | ⟨_, h, rfl, rfl, rfl⟩) <;>
      exact ⟨rfl, h⟩
  · rintro ⟨rfl, h⟩
    cases _chain with
    | ETH => exact .inl (.inl ⟨item, h, rfl, rfl, rfl⟩)
    | BSC => exact .inl (.inr ⟨item, h, rfl, rfl, rfl⟩)
    | TRON => exact .inr ⟨item, h, rfl, rfl, rfl⟩
    | other name => cases h

section

variable {σ : Type}

/-- The entries of two configs, place by place: the second has an item that `K` allows. -/
def SupportEntry.Rels (K : SupportEntry → ExternalAssetInfoItem → σ → Prop) (s : σ)
    (entries entries' : List SupportEntry) : Prop :=
  List.Forall₂ (fun e e' => e'.chainName = e.chainName ∧ e'._chain = e._chain ∧ K e e'.item s)
    entries entries'

variable {K : SupportEntry → ExternalAssetInfoItem → σ → Prop} {E : Prop} {R : σ → σ → Prop}
  {s t : σ}

theorem SupportEntry.Rels.append {es es' fs fs' : List SupportEntry} (h : Rels K s es es')
    (h' : Rels K s fs fs') : Rels K s (es ++ fs) (es' ++ fs') :=
  List.rel_append h h'

theorem SupportEntry.Rels.later (hlater : ∀ e item t u, R t u → K e item t → K e item u)
    {es es' : List SupportEntry} (hst : R s t) (h : Rels K s es es') : Rels K t es es' :=
  h.imp fun _ _ he => ⟨he.1, he.2.1, hlater _ _ s t hst he.2.2⟩

theorem SupportEntry.Rels.imp {K' : SupportEntry → ExternalAssetInfoItem → σ → Prop}
    {es es' : List SupportEntry} (h : Rels K s es es')
    (hK : ∀ e ∈ es, ∀ item, K e item s → K' e item s) : Rels K' s es es' := by
  induction h with
  | nil => exact .nil
  | @cons e e₁ es es₁ hhead htail ih =>
    refine .cons ⟨hhead.1, hhead.2.1, hK e (List.mem_cons_self ..) _ hhead.2.2⟩ (ih ?_)
    exact fun e he => hK e (List.mem_cons_of_mem _ he)

/-- Every entry of the first list has one in the second. -/
theorem SupportEntry.Rels.mem_left {es es' : List SupportEntry} (h : Rels K s es es')
    {e : SupportEntry} (hmem : e ∈ es) : ∃ item, K e item s := by
  induction h with
  | nil => cases hmem
  | @cons e₁ e₂ es es' hhead htail ih =>
    rcases List.mem_cons.1 hmem with rfl | hmem
    · exact ⟨_, hhead.2.2⟩
    · exact ih hmem

theorem SupportEntry.Rels.and {K' : SupportEntry → ExternalAssetInfoItem → σ → Prop}
    {es es' : List SupportEntry} (h : Rels K s es es') (h' : Rels K' s es es') :
    Rels (fun e item t => K e item t ∧ K' e item t) s es es' := by
  induction h with
  | nil => exact .nil
  | cons hhead htail ih =>
    cases h' with
    | cons hhead' htail' => exact .cons ⟨hhead.1, hhead.2.1, hhead.2.2, hhead'.2.2⟩ (ih htail')

/-- Every entry of the second list stands for one of the first. -/
theorem SupportEntry.Rels.mem {es es' : List SupportEntry} (h : Rels K s es es')
    {e' : SupportEntry} (hmem : e' ∈ es') :
    ∃ e ∈ es, e'.chainName = e.chainName ∧ e'._chain = e._chain ∧ K e e'.item s := by
  induction h with
  | nil => cases hmem
  | @cons e e₁ es es₁ hhead htail ih =>
    rcases List.mem_cons.1 hmem with rfl | hmem
    · exact ⟨e, List.mem_cons_self .., hhead⟩
    · obtain ⟨e, he, hrel⟩ := ih hmem
      exact ⟨e, List.mem_cons_of_mem _ he, hrel⟩

variable {answer : (c : ConfigCall) → σ → Except Err c.Ans → σ → Prop}
  {f : ExternalChainName → ExternalAssetInfoItem → ConfigAsync σ ExternalAssetInfoItem}
  {chainName : JsString}

/-- A body that establishes `K` for the entry it is given. -/
def EstablishesOn (answer : (c : ConfigCall) → σ → Except Err c.Ans → σ → Prop)
    (E : Prop) (R : σ → σ → Prop) (K : SupportEntry → ExternalAssetInfoItem → σ → Prop) (s : σ)
    (body : ConfigAsync σ ExternalAssetInfoItem) (e : SupportEntry) : Prop :=
  ∀ t, R s t → Post answer body t (Ends E R t (K e))

theorem post_entry (chainName : JsString) (_chain : ExternalChainName) (hrefl : ∀ s, R s s)
    {item : Option ExternalAssetInfoItem}
    (hbody : ∀ e ∈ item, EstablishesOn answer E R K s (f _chain e) ⟨chainName, _chain, e⟩) :
    Post answer (SupportChain.entry _chain item f) s (Ends E R s fun item' t =>
      SupportEntry.Rels K t (SupportChain.entryList chainName _chain item)
        (SupportChain.entryList chainName _chain item')) := by
  cases item with
  | none => exact post_pure.2 (.of_ok (hrefl s) .nil)
  | some e =>
    refine post_bind.2 ((hbody e rfl s (hrefl s)).mono fun r t ht => ?_)
    cases r with
    | error err => exact .of_error ht.rel (ht.error err rfl)
    | ok e' => exact post_pure.2 (.of_ok ht.rel (.cons ⟨rfl, rfl, ht.ok e' rfl⟩ .nil))

section

variable (hrefl : ∀ s, R s s) (htrans : ∀ s t u, R s t → R t u → R s u)
  (hlater : ∀ e item t u, R t u → K e item t → K e item u)

include htrans in
theorem EstablishesOn.later {body : ConfigAsync σ ExternalAssetInfoItem} {e : SupportEntry}
    (hst : R s t) (h : EstablishesOn answer E R K s body e) : EstablishesOn answer E R K t body e :=
  fun u htu => h u (htrans s t u hst htu)

include hrefl htrans hlater

/-- The loop over the keys of a `supportChain`. -/
theorem post_supportChain (chainName : JsString) {c : SupportChain}
    (hbody : ∀ e ∈ c.entries chainName, EstablishesOn answer E R K s (f e._chain e.item) e) :
    Post answer (c.forIn f) s (Ends E R s fun c' t =>
      SupportEntry.Rels K t (c.entries chainName) (c'.entries chainName)) := by
  have hkey : ∀ _chain item, c.get _chain = some item →
      EstablishesOn answer E R K s (f _chain item) ⟨chainName, _chain, item⟩ :=
    fun _ _ hget => hbody ⟨chainName, _, _⟩ (SupportChain.mem_entries.2 ⟨rfl, hget⟩)
  refine .bind htrans (post_entry chainName .ETH hrefl fun e he => hkey .ETH e he)
    fun ETH t hst hETH => ?_
  refine .bind htrans (post_entry chainName .BSC hrefl fun e he =>
    (hkey .BSC e he).later htrans hst) fun BSC u htu hBSC => ?_
  refine .bind htrans (post_entry chainName .TRON hrefl fun e he =>
    (hkey .TRON e he).later htrans (htrans s t u hst htu)) fun TRON v huv hTRON =>
      post_pure.2 (.of_ok (hrefl v) ?_)
  have hETH := hETH.later hlater (htrans t u v htu huv)
  exact (hETH.append (hBSC.later hlater huv)).append hTRON

/-- The loops over the chains and their assets. -/
theorem post_forIn {recharge : RechargeObject}
    {f : JsString → JsString → RechargeItem → ConfigAsync σ RechargeItem}
    (hbody : ∀ chainName assetType item t, R s t →
      item.supportChain.entries chainName ⊆ recharge.entries →
      Post answer (f chainName assetType item) t (Ends E R t fun item' u =>
        SupportEntry.Rels K u (item.supportChain.entries chainName)
          (item'.supportChain.entries chainName))) :
    Post answer (recharge.forIn f) s (Ends E R s fun recharge' t =>
      SupportEntry.Rels K t recharge.entries recharge'.entries) := by
  let Items (chainName : JsString) (item item' : RechargeItem) (u : σ) : Prop :=
    SupportEntry.Rels K u (item.supportChain.entries chainName)
      (item'.supportChain.entries chainName)
  let Assets (chainName : JsString) (assets assets' : Dict RechargeItem) (u : σ) : Prop :=
    SupportEntry.Rels K u (assets.flatMap fun (_, item) => item.supportChain.entries chainName)
      (assets'.flatMap fun (_, item) => item.supportChain.entries chainName)
  have hassets : ∀ chainName assets, (chainName, assets) ∈ recharge → ∀ t, R s t →
      Post answer (mapEntries (f chainName) assets) t (Ends E R t (Assets chainName assets)) := by
    intro chainName assets hassets t hst
    have hloop := Post.mapEntries (K := fun _ => Items chainName) (s := t) (f := f chainName) hrefl
      htrans (fun _ item item' t u htu h => h.later hlater htu) assets
      fun assetType item hitem u htu => hbody chainName assetType item u (htrans s t u hst htu)
        fun e he => List.mem_flatMap.2 ⟨_, hassets, List.mem_flatMap.2 ⟨_, hitem, he⟩⟩
    refine hloop.mono fun r u hu => ⟨hu.rel, fun assets' hr => ?_, hu.error⟩
    exact List.rel_flatMap (hu.ok assets' hr) fun _ _ h => h.2
  have hloop := Post.mapEntries (K := Assets) (s := s) hrefl htrans
    (fun _ assets assets' t u htu h => h.later hlater htu) recharge hassets
  refine hloop.mono fun r u hu => ⟨hu.rel, fun recharge' hr => ?_, hu.error⟩
  refine List.rel_flatMap (hu.ok recharge' hr) fun e e' h => ?_
  obtain ⟨chainName, assets⟩ := e
  obtain ⟨chainName', assets'⟩ := e'
  obtain ⟨rfl, h⟩ := h
  exact h

end

/-! ## Loops that can return -/

theorem supportChain_canReturn (chainName : JsString) {c : SupportChain}
    (h : ∀ e ∈ c.entries chainName, CanReturn answer (f e._chain e.item)) :
    CanReturn answer (c.forIn f) := by
  have hkey : ∀ _chain item, (∀ e, item = some e → c.get _chain = some e) →
      CanReturn answer (SupportChain.entry _chain item f) := by
    intro _chain item hget
    cases item with
    | none => exact .pure _
    | some e =>
      refine .bind (h ⟨chainName, _chain, e⟩ ?_) fun _ => .pure _
      exact SupportChain.mem_entries.2 ⟨rfl, hget e rfl⟩
  refine .bind (hkey .ETH _ fun _ h => h) fun _ => .bind (hkey .BSC _ fun _ h => h) fun _ => ?_
  exact .bind (hkey .TRON _ fun _ h => h) fun _ => .pure _

theorem forIn_canReturn {recharge : RechargeObject}
    {f : JsString → JsString → RechargeItem → ConfigAsync σ RechargeItem}
    (h : ∀ chainName assetType item, item.supportChain.entries chainName ⊆ recharge.entries →
      CanReturn answer (f chainName assetType item)) :
    CanReturn answer (recharge.forIn f) := by
  refine .mapEntries fun chainName assets hassets => .mapEntries fun assetType item hitem => ?_
  refine h chainName assetType item fun e he => ?_
  exact List.mem_flatMap.2 ⟨_, hassets, List.mem_flatMap.2 ⟨_, hitem, he⟩⟩

end

end CotServer
