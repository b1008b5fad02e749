import Mathlib
import Pay3.CollectionRoutes

/-!
# What the request hash is taken of

The hash of a request for a collection is taken of a JSON object with the
request's fields. The text determines the fields: a JSON string is read back
from its opening to its closing quote, since an escaped text has no quote of its
own, and the fields that are numbers have the same value in every request to a
service. So two requests with one canonical text ask for the same order, the
same destination and the same amount.
-/

/-! ## The canonical request -/

/-- The text of a canonical request around the fields that differ between the
requests to a service. -/
theorem toList_canonicalRequest (input : CreateCollectionInput) (config : CollectionServiceConfig)
    (route : CollectionRoute) :
    (canonicalRequest input config route).toList
      = ("\x7b" ++ jsonString "idempotency_key" ++ ":").toList
        ++ ((jsonString input.idempotencyKey).toList
        ++ (("," ++ jsonString "order_id" ++ ":").toList
        ++ ((jsonString input.orderId.hyphenated).toList
        ++ (("," ++ jsonString "amount" ++ ":").toList
        ++ ((jsonString input.amount.canonicalValue).toList
        ++ (("," ++ jsonString "chain_id" ++ ":" ++ toString config.chainId ++ ","
          ++ jsonString "token_address" ++ ":"
          ++ jsonString (EvmAddress.display config.tokenAddress) ++ ","
          ++ jsonString "destination" ++ ":").toList
        ++ ((jsonString route.canonicalDestination).toList
        ++ ("," ++ jsonString "to_address" ++ ":"
          ++ jsonString (EvmAddress.display (route.toAddress config)) ++ "\x7d").toList))))))) := by
  have hjoin : ∀ a b c d e f g : String, ",".intercalate [a, b, c, d, e, f, g]
      = a ++ "," ++ b ++ "," ++ c ++ "," ++ d ++ "," ++ e ++ "," ++ f ++ "," ++ g :=
    fun _ _ _ _ _ _ _ => rfl
  unfold canonicalRequest
  simp only [List.map_cons, List.map_nil]
  rw [hjoin]
  simp only [String.toList_append, List.append_assoc]

/-- An amount is determined by its canonical value. -/
theorem CollectionAmount.canonicalValue_inj {a b : CollectionAmount}
    (h : a.canonicalValue = b.canonicalValue) : a = b := by
  have hdigits : ∀ n : ℕ, n.repr ≠ "max" := by
    intro n hn
    have hlist : Nat.toDigits 10 n = ['m', 'a', 'x'] := by
      rw [← Nat.toList_repr, hn]
      rfl
    have hdigit := Nat.isDigit_of_mem_toDigits (b := 10) (n := n) (c := 'm') (by decide) (by decide)
      (by rw [hlist]; exact List.mem_cons_self)
    exact absurd hdigit (by decide)
  cases a with
  | max =>
    cases b with
    | max => rfl
    | exact amount => exact absurd h.symm (hdigits amount.toNat)
  | exact amount =>
    cases b with
    | max => exact absurd h (hdigits amount.toNat)
    | exact amount' =>
      have hrepr : amount.toNat.repr = amount'.toNat.repr := h
      rw [BitVec.eq_of_toNat_eq (Nat.repr_inj.mp hrepr)]

/-- A route is determined by its destination. -/
theorem CollectionRoute.canonicalDestination_inj {r r' : CollectionRoute}
    (h : r.canonicalDestination = r'.canonicalDestination) : r = r' := by
  cases r <;> cases r' <;> first | rfl | exact absurd h (by decide)

/-- **The canonical text determines the request**: its key, its order, its amount
and its route. -/
theorem canonicalRequest_inj {input input' : CreateCollectionInput}
    {config : CollectionServiceConfig} {route route' : CollectionRoute}
    (h : canonicalRequest input config route = canonicalRequest input' config route') :
    input.idempotencyKey = input'.idempotencyKey ∧ input.orderId = input'.orderId
      ∧ input.amount = input'.amount ∧ route = route' := by
  have hlist := congrArg String.toList h
  rw [toList_canonicalRequest, toList_canonicalRequest] at hlist
  obtain ⟨hkey, hlist⟩ := jsonString_append_inj (List.append_cancel_left hlist)
  obtain ⟨horder, hlist⟩ := jsonString_append_inj (List.append_cancel_left hlist)
  obtain ⟨hamount, hlist⟩ := jsonString_append_inj (List.append_cancel_left hlist)
  obtain ⟨hroute, -⟩ := jsonString_append_inj (List.append_cancel_left hlist)
  exact ⟨hkey, Uuid.hyphenated_injective horder, CollectionAmount.canonicalValue_inj hamount,
    CollectionRoute.canonicalDestination_inj hroute⟩
