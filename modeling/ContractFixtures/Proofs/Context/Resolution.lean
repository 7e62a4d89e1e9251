import ContractFixtures.Proofs.NameMap.Values
import ContractFixtures.Proofs.Param.RoundTrip

/-!
# What tokens stand for

A token is looked up in three places, one after the other: among the texts of addresses, the
spellings of the name of the admin, and the names of contracts. So no contract can take the place of
an address or of the admin, whatever it is called. Of the contracts under one name the last one
counts, and those under other names do not matter to it.

* `deploy`: contracts that are deployed one after the other.
* `NamesAdmin`: the spellings of the name of the admin.
* `Finds`: what is found for a token after deployments.

Results:
1. `isAdminName_iff`: which tokens are taken for the admin.
2. `get?_deploy`: the address under a name is that of the last contract.
3. `deploy_swap`: contracts with different names can be deployed in either order.
4. `resolve_deployed`: what tokens stand for, and what does not matter to it.
-/

namespace ContractFixtures.Context

/-- Deploys contracts one after the other, each under a name. -/
def deploy (ctx : Context) (calls : List (String × Address)) : Context :=
  calls.foldl (fun ctx call => ctx.withContract call.1 call.2) ctx

/-- A token that is the name of the admin, each letter in either case. -/
def NamesAdmin (token : String) : Prop :=
  List.Forall₂ (fun c letter => c = letter ∨ c = letter.toUpper) token.toList "admin".toList

/-- A token that is the text of an address. -/
def IsAddressText (token : String) : Prop :=
  ∃ a : Address, token = a.toBase58

/-- What is found for a token after contracts have been deployed.

* `text`: the address whose text it is.
* `admin`: the admin, for its name.
* `contract`: the last contract with that name.
* `unknown`: nothing, if there is no such contract. -/
inductive Finds (admin : Address) (calls : List (String × Address)) (token : String) :
    Except ParamFault Address → Prop
  | text {a : Address} : token = a.toBase58 → Finds admin calls token (.ok a)
  | admin : ¬ IsAddressText token → NamesAdmin token → Finds admin calls token (.ok admin)
  | contract {a : Address} {before behind : List (String × Address)} :
      ¬ IsAddressText token → ¬ NamesAdmin token → calls = before ++ (token, a) :: behind →
      (∀ call ∈ behind, call.1 ≠ token) → Finds admin calls token (.ok a)
  | unknown :
      ¬ IsAddressText token → ¬ NamesAdmin token → (∀ call ∈ calls, call.1 ≠ token) →
      Finds admin calls token (.error (.unknownAddress token))

/-! ## The name of the admin -/

/-- The codes of a letter in either case lie 32 apart, each in the range of its case. -/
theorem toNat_toUpper_of_mem {letter : Char} (h : letter ∈ adminName.toList) :
    letter.toUpper.toNat + 32 = letter.toNat ∧ 97 ≤ letter.toNat ∧ letter.toNat ≤ 122 := by
  have hall : adminName.toList.all (fun letter =>
      letter.toUpper.toNat + 32 = letter.toNat ∧ 97 ≤ letter.toNat ∧ letter.toNat ≤ 122) = true := by
    decide
  exact of_decide_eq_true (List.all_eq_true.mp hall letter h)

theorem toNat_lowerAscii_of_upper {c : Char} (h : 'A' ≤ c ∧ c ≤ 'Z') :
    (lowerAscii c).toNat = c.toNat + 32 := by
  have hle : c.toNat ≤ 90 := h.2
  have hvalid : (c.toNat + 32).isValidChar := .inl (by omega)
  rw [lowerAscii, if_pos h, Char.ofNat, dif_pos hvalid]
  rfl

theorem lowerAscii_eq_iff {c letter : Char} (h : letter ∈ adminName.toList) :
    lowerAscii c = letter ↔ c = letter ∨ c = letter.toUpper := by
  obtain ⟨hupper, hle, hge⟩ := toNat_toUpper_of_mem h
  by_cases hc : 'A' ≤ c ∧ c ≤ 'Z'
  · have hcode : c.toNat ≤ 90 := hc.2
    rw [← Char.toNat_inj, ← Char.toNat_inj, ← Char.toNat_inj, toNat_lowerAscii_of_upper hc]
    omega
  · rw [lowerAscii, if_neg hc]
    refine (or_iff_left ?_).symm
    rintro rfl
    have hlower : 65 ≤ letter.toUpper.toNat := by omega
    have hcode : letter.toUpper.toNat ≤ 90 := by omega
    exact hc ⟨hlower, hcode⟩

theorem map_lowerAscii_eq_iff {cs letters : List Char} (h : ∀ c ∈ letters, c ∈ adminName.toList) :
    cs.map lowerAscii = letters ↔
      List.Forall₂ (fun c letter => c = letter ∨ c = letter.toUpper) cs letters := by
  induction letters generalizing cs with
  | nil => rw [List.map_eq_nil_iff, List.forall₂_nil_right_iff]
  | cons letter letters ih =>
    obtain ⟨hletter, hletters⟩ := List.forall_mem_cons.mp h
    rw [List.map_eq_cons_iff, List.forall₂_cons_right_iff]
    constructor
    · rintro ⟨c, more, rfl, hc, hmore⟩
      exact ⟨c, more, (lowerAscii_eq_iff hletter).mp hc, (ih hletters).mp hmore, rfl⟩
    · rintro ⟨c, more, hc, hmore, rfl⟩
      exact ⟨c, more, rfl, (lowerAscii_eq_iff hletter).mpr hc, (ih hletters).mpr hmore⟩

/-- A token is taken for the admin exactly if it is its name, each letter in either case. -/
theorem isAdminName_iff {token : String} : isAdminName token = true ↔ NamesAdmin token := by
  rw [isAdminName, beq_iff_eq]
  exact map_lowerAscii_eq_iff fun _ => id

/-! ## Deployments -/

@[simp] theorem admin_withContract (ctx : Context) (name : String) (a : Address) :
    (ctx.withContract name a).admin = ctx.admin := rfl

@[simp] theorem get?_withContract (ctx : Context) (name other : String) (a : Address) :
    (ctx.withContract name a).contracts.get? other =
      if name = other then some a else ctx.contracts.get? other :=
  NameMap.get?_insert ctx.contracts name other a

theorem deploy_cons (ctx : Context) (call : String × Address) (calls : List (String × Address)) :
    ctx.deploy (call :: calls) = (ctx.withContract call.1 call.2).deploy calls := rfl

theorem deploy_append (ctx : Context) (front back : List (String × Address)) :
    ctx.deploy (front ++ back) = (ctx.deploy front).deploy back :=
  List.foldl_append

theorem admin_deploy (ctx : Context) (calls : List (String × Address)) :
    (ctx.deploy calls).admin = ctx.admin := by
  induction calls generalizing ctx with
  | nil => rfl
  | cons call calls ih => rw [deploy_cons, ih, admin_withContract]

/-- The address under a name is that of the last contract that was deployed under it. -/
theorem get?_deploy (ctx : Context) (calls : List (String × Address)) (name : String) :
    (ctx.deploy calls).contracts.get? name =
      (calls.reverse.lookup name).or (ctx.contracts.get? name) := by
  induction calls generalizing ctx with
  | nil => rfl
  | cons call calls ih =>
    obtain ⟨k, a⟩ := call
    rw [deploy_cons, ih, get?_withContract, List.reverse_cons, List.lookup_append, Option.or_assoc]
    refine congrArg _ ?_
    by_cases hname : name = k
    · subst hname
      rw [List.lookup_cons_self, if_pos rfl]
      rfl
    · have hne : (name == k) = false := beq_eq_false_iff_ne.mpr hname
      rw [List.lookup_cons, hne, if_neg (Ne.symm hname)]
      rfl

theorem lookup_reverse_eq_some_iff {calls : List (String × Address)} {name : String} {a : Address} :
    calls.reverse.lookup name = some a ↔
      ∃ before behind, calls = before ++ (name, a) :: behind ∧ ∀ call ∈ behind, call.1 ≠ name := by
  rw [List.lookup_eq_some_iff]
  constructor
  · rintro ⟨front, back, h, hfront⟩
    refine ⟨back.reverse, front.reverse, ?_, ?_⟩
    · rw [← List.reverse_reverse calls, h]
      simp
    · intro call hcall heq
      have hne := bne_iff_ne.mp (hfront call (List.mem_reverse.mp hcall))
      exact hne heq.symm
  · rintro ⟨before, behind, rfl, hbehind⟩
    refine ⟨behind.reverse, before.reverse, by simp, ?_⟩
    intro call hcall
    exact bne_iff_ne.mpr (Ne.symm (hbehind call (List.mem_reverse.mp hcall)))

theorem lookup_reverse_eq_none_iff {calls : List (String × Address)} {name : String} :
    calls.reverse.lookup name = none ↔ ∀ call ∈ calls, call.1 ≠ name := by
  rw [List.lookup_eq_none_iff]
  constructor
  · intro h call hcall heq
    exact bne_iff_ne.mp (h call (List.mem_reverse.mpr hcall)) heq.symm
  · intro h call hcall
    exact bne_iff_ne.mpr (Ne.symm (h call (List.mem_reverse.mp hcall)))

/-- Contracts with different names can be deployed in either order. -/
theorem deploy_swap (ctx : Context) (before behind : List (String × Address))
    {x y : String × Address} (h : x.1 ≠ y.1) :
    ctx.deploy (before ++ x :: y :: behind) = ctx.deploy (before ++ y :: x :: behind) := by
  have hswap : ∀ c : Context, (c.withContract x.1 x.2).withContract y.1 y.2 =
      (c.withContract y.1 y.2).withContract x.1 x.2 := fun c =>
    congrArg (Context.mk c.admin) (NameMap.insert_comm c.contracts h x.2 y.2)
  simp only [deploy_append, deploy_cons, hswap]

/-! ## Tokens -/

section
variable {ctx : Context} {token : String} {a : Address}

theorem resolve_eq_ok_iff : ctx.resolve token = .ok a ↔ ctx.resolve? token = some a := by
  unfold resolve
  cases ctx.resolve? token <;> simp

theorem resolve_eq_unknown_iff :
    ctx.resolve token = .error (.unknownAddress token) ↔ ctx.resolve? token = none := by
  unfold resolve
  cases ctx.resolve? token <;> simp

theorem resolve_toBase58 : ctx.resolve a.toBase58 = .ok a :=
  resolve_eq_ok_iff.mpr (ctx.resolve?_toBase58 a)

theorem resolve?_of_not_text (h : ¬ IsAddressText token) :
    ctx.resolve? token =
      if isAdminName token then some ctx.admin else ctx.contracts.get? token := by
  unfold resolve?
  split
  · next a ha => exact absurd ⟨a, Address.ofBase58_eq_ok_iff.mp ha⟩ h
  · rfl

theorem resolve_of_namesAdmin (h : ¬ IsAddressText token) (hadmin : NamesAdmin token) :
    ctx.resolve token = .ok ctx.admin := by
  rw [resolve_eq_ok_iff, resolve?_of_not_text h, if_pos (isAdminName_iff.mpr hadmin)]

/-- Any other token is the name of a contract. -/
theorem resolve?_of_not_namesAdmin (h : ¬ IsAddressText token) (hadmin : ¬ NamesAdmin token) :
    ctx.resolve? token = ctx.contracts.get? token := by
  rw [resolve?_of_not_text h, if_neg (isAdminName_iff.not.mpr hadmin)]

end

section
variable {admin : Address} {calls : List (String × Address)} {token : String}
  {r : Except ParamFault Address}

theorem Finds.resolve_eq (h : Finds admin calls token r) :
    (deploy { admin } calls).resolve token = r := by
  have hget := get?_deploy { admin } calls token
  rw [show ({ admin } : Context).contracts.get? token = none from rfl, Option.or_none] at hget
  cases h with
  | text htext =>
    rw [htext]
    exact resolve_toBase58
  | admin hno hadmin => rw [resolve_of_namesAdmin hno hadmin, admin_deploy]
  | contract hno hadmin hcalls hbehind =>
    have hlast := lookup_reverse_eq_some_iff.mpr ⟨_, _, hcalls, hbehind⟩
    rw [resolve_eq_ok_iff, resolve?_of_not_namesAdmin hno hadmin, hget, hlast]
  | unknown hno hadmin hcalls =>
    have hnone := lookup_reverse_eq_none_iff.mpr hcalls
    rw [resolve_eq_unknown_iff, resolve?_of_not_namesAdmin hno hadmin, hget, hnone]

/-- Something is found for every token. -/
theorem exists_finds (admin : Address) (calls : List (String × Address)) (token : String) :
    ∃ r, Finds admin calls token r := by
  by_cases htext : IsAddressText token
  · obtain ⟨a, ha⟩ := htext
    exact ⟨_, .text ha⟩
  by_cases hadmin : NamesAdmin token
  · exact ⟨_, .admin htext hadmin⟩
  cases hlast : calls.reverse.lookup token with
  | some a =>
    obtain ⟨before, behind, hcalls, hbehind⟩ := lookup_reverse_eq_some_iff.mp hlast
    exact ⟨_, .contract htext hadmin hcalls hbehind⟩
  | none => exact ⟨_, .unknown htext hadmin (lookup_reverse_eq_none_iff.mp hlast)⟩

theorem resolve_eq_iff_finds :
    (deploy { admin } calls).resolve token = r ↔ Finds admin calls token r := by
  constructor
  · rintro rfl
    obtain ⟨r, hr⟩ := exists_finds admin calls token
    rw [hr.resolve_eq]
    exact hr
  · exact Finds.resolve_eq

end

/-- The text of an address stands for the address, the name of the admin for the admin, and any
other token for the last contract that was deployed under exactly this name, if there is one. So no
contract stands in the way of an address text or of the admin, and contracts with different names
can be deployed in either order. -/
theorem resolve_deployed (admin : Address) (calls : List (String × Address)) :
    (∀ token r, (deploy { admin } calls).resolve token = r ↔ Finds admin calls token r) ∧
    (∀ token, IsAddressText token ∨ NamesAdmin token →
      (deploy { admin } calls).resolve token = Context.resolve { admin } token) ∧
    ∀ x y behind, x.1 ≠ y.1 →
      deploy { admin } (calls ++ x :: y :: behind) =
        deploy { admin } (calls ++ y :: x :: behind) := by
  refine ⟨fun token r => resolve_eq_iff_finds, fun token h => ?_, fun x y behind h => ?_⟩
  · by_cases htext : IsAddressText token
    · obtain ⟨a, rfl⟩ := htext
      rw [resolve_toBase58, resolve_toBase58]
    · have hadmin := h.resolve_left htext
      rw [resolve_of_namesAdmin htext hadmin, resolve_of_namesAdmin htext hadmin, admin_deploy]
  · exact deploy_swap _ calls behind h

/-- A contract that is called like the admin, and one that takes the place of another. -/
def sampleCalls : List (String × Address) :=
  [("token", .empty), ("ADMIN", .empty), ("token", ⟨List.replicate 20 1, rfl⟩)]

theorem resolve_deployed_sampleCalls :
    NamesAdmin "Admin" ∧
      (deploy { admin := ⟨List.replicate 20 2, rfl⟩ } sampleCalls).resolve "Admin" =
        Context.resolve { admin := ⟨List.replicate 20 2, rfl⟩ } "Admin" ∧
      "ADMIN" ≠ "token" ∧
      deploy {} ([("token", .empty)] ++ ("ADMIN", .empty) :: ("token", .empty) :: []) =
        deploy {} ([("token", .empty)] ++ ("token", .empty) :: ("ADMIN", .empty) :: []) := by
  have hadmin : NamesAdmin "Admin" := isAdminName_iff.mp rfl
  have hne : "ADMIN" ≠ "token" := by decide
  exact ⟨hadmin, (resolve_deployed _ sampleCalls).2.1 "Admin" (.inr hadmin), hne,
    (resolve_deployed .empty [("token", .empty)]).2.2 _ _ [] hne⟩

/-- The last contract under a name counts, and none of them is found under that of the admin. -/
example : (deploy {} sampleCalls).resolve "token" = .ok ⟨List.replicate 20 1, rfl⟩ ∧
    (deploy { admin := ⟨List.replicate 20 2, rfl⟩ } sampleCalls).resolve "ADMIN" =
      .ok ⟨List.replicate 20 2, rfl⟩ ∧
    (deploy {} sampleCalls).resolve "Token" = .error (.unknownAddress "Token") := by
  decide +kernel

end ContractFixtures.Context
