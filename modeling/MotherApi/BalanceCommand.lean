import MotherApi.Strings
import Mathlib.Data.List.Nodup

/-!
What a balance request asks for: accounts, tokens, a point in time and a currency.

A command is only built by `tryNew`, so the checks it makes hold of every command.
-/

namespace MotherApi.BalanceCommand

open MotherApi.Strings

inductive AsOf
  | latest
  | timestamp (timestamp : String)
  | blockNumber (blockNumber : String)
  deriving DecidableEq

structure OnchainAccount where
  networkSlug : String
  address : String
  clientRef : Option String
  deriving DecidableEq

structure TokenSelector where
  assetSlugs : List String
  contractAddresses : List String
  deriving DecidableEq

def TokenSelector.len (tokens : TokenSelector) : ℕ :=
  tokens.assetSlugs.length + tokens.contractAddresses.length

inductive GetBalancesCommandError
  | emptyAccounts
  | emptyTokens
  | requestTooLarge
  | unsupportedQuoteCurrency
  | invalidAccount
  | duplicateAccount
  | duplicateAsset
  deriving DecidableEq

def MAX_ACCOUNTS : ℕ := 50
def MAX_TOKENS : ℕ := 20
def MAX_RESOLUTION_ITEMS : ℕ := 1000

def QUOTE_CURRENCIES : List String := ["USD", "MXN", "USDC", "BTC"]

/-- An account is the same as another if they have one network slug and one address, the
address without regard to case. -/
def identity (account : OnchainAccount) : String × String :=
  (account.networkSlug, toAsciiLowercase account.address)

lemma nodup_eraseDups (l : List String) : l.eraseDups.Nodup := by
  induction hn : l.length using Nat.strong_induction_on generalizing l with
  | _ n ih =>
    cases l with
    | nil => simp
    | cons a l =>
      have hlen : (l.filter fun b => !b == a).length < n := by
        have := List.length_filter_le (fun b => !b == a) l
        simp only [List.length_cons] at hn
        omega
      rw [List.eraseDups_cons, List.nodup_cons]
      refine ⟨?_, ih _ hlen _ rfl⟩
      simp [List.mem_eraseDups]

lemma lowercase_of_mem_eraseDups {l : List String} {a : String}
    (h : a ∈ (l.map toAsciiLowercase).eraseDups) : toAsciiLowercase a = a := by
  obtain ⟨b, -, rfl⟩ := List.mem_map.mp (List.mem_eraseDups.mp h)
  exact toAsciiLowercase_idem b

structure GetBalancesCommand where
  asOf : AsOf
  accounts : List OnchainAccount
  tokens : TokenSelector
  quoteCurrency : String
  accountsNonempty : accounts ≠ []
  accountsSize : accounts.length ≤ MAX_ACCOUNTS
  tokensSize : tokens.len ≤ MAX_TOKENS
  currencySupported : quoteCurrency ∈ QUOTE_CURRENCIES
  addressesValid : ∀ account ∈ accounts, isEvmAddress account.address = true
  accountsDistinct : (accounts.map identity).Nodup
  assetsDistinct : tokens.assetSlugs.Nodup
  contractsLowercase : ∀ address ∈ tokens.contractAddresses, toAsciiLowercase address = address
  contractsDistinct : tokens.contractAddresses.Nodup
  deriving DecidableEq

/-- A product that does not fit a machine word is too large as well, so the checked
multiplication is one comparison. -/
def tryNew (asOf : AsOf) (accounts : List OnchainAccount) (quoteCurrency : String)
    (tokens : TokenSelector) : Except GetBalancesCommandError GetBalancesCommand :=
  if hnonempty : accounts = [] then .error .emptyAccounts
  else if tokens.assetSlugs = [] ∧ tokens.contractAddresses = [] then .error .emptyTokens
  else
    let contractAddresses := (tokens.contractAddresses.map toAsciiLowercase).eraseDups
    let tokens : TokenSelector := ⟨tokens.assetSlugs, contractAddresses⟩
    if hsize : accounts.length > MAX_ACCOUNTS ∨ tokens.len > MAX_TOKENS
        ∨ accounts.length * tokens.len > MAX_RESOLUTION_ITEMS then .error .requestTooLarge
    else
      let quoteCurrency := toAsciiUppercase (trim quoteCurrency)
      if hcurrency : quoteCurrency ∉ QUOTE_CURRENCIES then .error .unsupportedQuoteCurrency
      else if hvalid : ∃ account ∈ accounts, isEvmAddress account.address = false then
        .error .invalidAccount
      else if haccounts : ¬(accounts.map identity).Nodup then .error .duplicateAccount
      else if hassets : ¬tokens.assetSlugs.Nodup then .error .duplicateAsset
      else .ok
        { asOf := asOf
          accounts := accounts
          tokens := tokens
          quoteCurrency := quoteCurrency
          accountsNonempty := hnonempty
          accountsSize := by omega
          tokensSize := by omega
          currencySupported := not_not.mp hcurrency
          addressesValid := by simpa using hvalid
          accountsDistinct := not_not.mp haccounts
          assetsDistinct := not_not.mp hassets
          contractsLowercase := fun _ => lowercase_of_mem_eraseDups
          contractsDistinct := nodup_eraseDups _ }

/-- What is accepted: the accounts and assets as they came, the contracts in lower case
without repetitions, the currency in upper case. -/
lemma tryNew_ok {asOf : AsOf} {accounts : List OnchainAccount} {quoteCurrency : String}
    {tokens : TokenSelector} {command : GetBalancesCommand}
    (h : tryNew asOf accounts quoteCurrency tokens = .ok command) :
    command.asOf = asOf ∧ command.accounts = accounts ∧
      command.tokens.assetSlugs = tokens.assetSlugs ∧
      command.tokens.contractAddresses =
        (tokens.contractAddresses.map toAsciiLowercase).eraseDups ∧
      command.quoteCurrency = toAsciiUppercase (trim quoteCurrency) := by
  unfold tryNew at h
  simp only at h
  repeat' split at h
  all_goals first
    | cases h; exact ⟨rfl, rfl, rfl, rfl, rfl⟩
    | cases h

lemma exists_tryNew {asOf : AsOf} {accounts : List OnchainAccount} {quoteCurrency : String}
    {assetSlugs : List String} (haccounts : accounts ≠ [])
    (haccountsSize : accounts.length ≤ MAX_ACCOUNTS) (hassets : assetSlugs ≠ [])
    (hassetsSize : assetSlugs.length ≤ MAX_TOKENS)
    (hcurrency : toAsciiUppercase (trim quoteCurrency) ∈ QUOTE_CURRENCIES)
    (hvalid : ∀ account ∈ accounts, isEvmAddress account.address = true)
    (hdistinct : (accounts.map identity).Nodup) (hassetsDistinct : assetSlugs.Nodup) :
    ∃ command, tryNew asOf accounts quoteCurrency ⟨assetSlugs, []⟩ = .ok command := by
  have hlen : TokenSelector.len ⟨assetSlugs, []⟩ = assetSlugs.length := rfl
  have hitems : accounts.length * assetSlugs.length ≤ MAX_RESOLUTION_ITEMS :=
    Nat.mul_le_mul haccountsSize hassetsSize
  have hsize : ¬(accounts.length > MAX_ACCOUNTS ∨ assetSlugs.length > MAX_TOKENS
      ∨ accounts.length * assetSlugs.length > MAX_RESOLUTION_ITEMS) := by
    omega
  have hinvalid : ¬∃ account ∈ accounts, isEvmAddress account.address = false := by
    simpa using hvalid
  unfold tryNew
  simp only [List.map_nil, List.eraseDups_nil, hlen]
  rw [dif_neg haccounts, if_neg (by simp [hassets]), dif_neg hsize, dif_neg (not_not.mpr hcurrency),
    dif_neg hinvalid, dif_neg (not_not.mpr hdistinct), dif_neg (not_not.mpr hassetsDistinct)]
  exact ⟨_, rfl⟩

end MotherApi.BalanceCommand
