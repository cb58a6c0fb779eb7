import SiteAnalytics.Proofs.Text.Bytes
import SiteAnalytics.Proofs.Text.FormEncoding
import SiteAnalytics.Store.Client

/-!
# Parameters on their way to the column store

A query is put at the configured address with its parameters behind the query that the address has.
`decodePairs_addressQuery` says what a server reads there: first all that was there before, then
the pairs, each of them with the very bytes of its name and value.  So whatever a value is, it
neither adds a pair nor changes another one.  The path of an address contains no question mark
(`questionMark_notMem_path`), so that the query of a request starts where it should.
-/

namespace SiteAnalytics

/-! ### Paths -/

namespace Percent

theorem questionMark_notMem_encodeByte (b : UInt8) : '?' ∉ encodeByte b := by
  have hdigit : ∀ n < 16, Text.upperHexDigit n ≠ '?' := by decide
  have hb : b.toNat < 256 := b.toNat_lt
  have hhigh := hdigit (b.toNat / 16) (by omega)
  have hlow := hdigit (b.toNat % 16) (by omega)
  simp [encodeByte, hhigh.symm, hlow.symm]

theorem questionMark_notMem_encode {escaped : Char → Bool} (h : escaped '?' = true)
    (cs : List Char) : '?' ∉ encode escaped cs := by
  intro hmem
  obtain ⟨c, -, hc⟩ := List.mem_flatMap.mp hmem
  split_ifs at hc with hescaped
  · obtain ⟨b, -, hb⟩ := List.mem_flatMap.mp hc
    exact questionMark_notMem_encodeByte b hb
  · obtain rfl := List.mem_singleton.mp hc
    exact hescaped h

end Percent

namespace Url

theorem questionMark_notMem_resolve {back segments : List (List Char)}
    (h : ∀ segment ∈ back, '?' ∉ segment) : ∀ segment ∈ resolve back segments, '?' ∉ segment := by
  have hnil (back : List (List Char)) (h : ∀ segment ∈ back, '?' ∉ segment) :
      ∀ segment ∈ [] :: back, '?' ∉ segment :=
    List.forall_mem_cons.mpr ⟨List.not_mem_nil, h⟩
  have hencode (cs : List Char) : '?' ∉ Percent.encode isEscapedInPath cs :=
    Percent.questionMark_notMem_encode (by decide) cs
  have htail {back : List (List Char)} (h : ∀ segment ∈ back, '?' ∉ segment) :
      ∀ segment ∈ back.tail, '?' ∉ segment := fun segment hs => h segment (List.mem_of_mem_tail hs)
  fun_induction resolve back segments with
  | case1 => exact h
  | case2 => exact hnil _ (htail h)
  | case3 => exact hnil _ h
  | case4 => exact List.forall_mem_cons.mpr ⟨hencode _, h⟩
  | case5 _ _ _ _ _ ih => exact ih (htail h)
  | case6 _ _ _ _ _ _ ih => exact ih h
  | case7 _ _ _ _ _ _ ih => exact ih (List.forall_mem_cons.mpr ⟨hencode _, h⟩)

theorem questionMark_notMem_pathOf (cs : List Char) : '?' ∉ pathOf cs := by
  intro hmem
  obtain ⟨segment, hsegment, hc⟩ := List.mem_flatMap.mp hmem
  rcases List.mem_cons.mp hc with hc | hc
  · contradiction
  · exact questionMark_notMem_resolve (by simp) segment (List.mem_reverse.mp hsegment) hc

theorem path_of_web? {secure : Bool} {cs : List Char} {a : WebAddress}
    (h : web? secure cs = some a) : ∃ path, a.path = pathOf path := by
  simp only [web?, Option.bind_eq_bind, Option.bind_eq_some_iff] at h
  obtain ⟨host, -, port, -, ha⟩ := h
  obtain rfl := Option.some.inj ha
  exact ⟨_, rfl⟩

/-- The path of an address ends before the first question mark. -/
theorem questionMark_notMem_path {s : String} {a : WebAddress} (h : parse? s = some (.web a)) :
    '?' ∉ a.path := by
  have hweb : ∃ secure cs, web? secure cs = some a := by
    obtain ⟨⟨scheme, rest⟩, -, h⟩ := Option.bind_eq_some_iff.mp h
    dsimp only at h
    split at h
    · exact ⟨false, rest, by simpa using h⟩
    · exact ⟨true, rest, by simpa using h⟩
    all_goals simp [Option.map_eq_some_iff] at h
  obtain ⟨secure, cs, hweb⟩ := hweb
  obtain ⟨path, hpath⟩ := path_of_web? hweb
  rw [hpath]
  exact questionMark_notMem_pathOf path

end Url

/-! ### Queries -/

/-- What follows the first question mark of the target. -/
def HttpRequest.query (r : HttpRequest) : List Char :=
  (r.target.toList.dropWhile (· != '?')).drop 1

namespace Client

open FormEncoding

/-- Parameters are listed in the order of the bytes of their names. -/
theorem pairwise_bytes_keys (p : Params) : (p.keys.map Text.bytes).Pairwise (· < ·) := by
  rw [Dict.keys, List.map_map, List.pairwise_map]
  exact p.sorted.imp fun h => Text.bytes_lt_iff.mpr h

/-- A request for a web address carries the whole query of the address. -/
theorem query_of_request {config : Config} {server : WebAddress}
    (h : Url.parse? config.url = some (.web server)) (q : Query) (wantsRows : Bool) :
    ∃ r, request config q wantsRows = .ok r ∧ r.server = server ∧
      r.query = addressQuery (.web server) config q wantsRows := by
  have hpath : ∀ c ∈ server.path, (c != '?') = true := fun c hc =>
    bne_iff_ne.mpr fun heq => Url.questionMark_notMem_path h (heq ▸ hc)
  refine ⟨_, by rw [request, h], rfl, ?_⟩
  rw [HttpRequest.query, String.toList_ofList, target, List.dropWhile_append_of_pos hpath]
  rfl

/-- What a server reads off the address at which a query is put: the pairs that the configured
address has, the database, the settings for rows if rows are wanted, and the parameters in the order
of their names, all of them byte for byte. -/
theorem decodePairs_addressQuery {config : Config} {address : Url}
    (h : Url.parse? config.url = some address) (q : Query) (wantsRows : Bool) :
    decodePairs (addressQuery address config q wantsRows) =
        decodePairs address.query ++
          (("database", config.database) ::
            ((if wantsRows then
              [("default_format", "JSON"), ("output_format_json_quote_64bit_integers", "0")]
            else []) ++
            q.params.entries.map fun e => ("param_" ++ e.1, e.2.wire))).map pairBytes ∧
      (q.params.keys.map Text.bytes).Pairwise (· < ·) ∧
      ∀ server, address = .web server → ∃ r, request config q wantsRows = .ok r ∧
        r.server = server ∧ r.query = addressQuery address config q wantsRows := by
  refine ⟨?_, pairwise_bytes_keys q.params, ?_⟩
  · rw [addressQuery, decodePairs_append, pairs, Params.wire, List.map_map, List.append_assoc]
    rfl
  · rintro server rfl
    exact query_of_request h q wantsRows

/-- A value that looks like more pairs, and one that is null. -/
def hostileQuery : Query :=
  ⟨"SELECT 1", Dict.ofList [("qf_0_0", .text "&database=x#%41+ \u00fc="), ("cc", .null)]⟩

/-- An address with a query of its own. -/
def hostileServer : WebAddress := ⟨false, "db", some 8123, ['/'], "x=1&&y".toList⟩

theorem decodePairs_addressQuery_hostileQuery :
    let config := { Config.standard with url := "http://DB:8123?x=1&&y#z", database := "a&b" }
    Url.parse? config.url = some (.web hostileServer) ∧
      decodePairs (addressQuery (.web hostileServer) config hostileQuery false) =
        [("x", "1"), ("y", ""), ("database", "a&b"), ("param_cc", "\\N"),
          ("param_qf_0_0", "&database=x#%41+ \u00fc=")].map pairBytes ∧
      ∃ r, request config hostileQuery false = .ok r ∧ r.server = hostileServer ∧
        r.query = addressQuery (.web hostileServer) config hostileQuery false := by
  intro config
  have hparse : Url.parse? config.url = some (.web hostileServer) := by decide +kernel
  obtain ⟨hpairs, -, hrequest⟩ := decodePairs_addressQuery hparse hostileQuery false
  refine ⟨hparse, hpairs.trans ?_, hrequest hostileServer rfl⟩
  decide +kernel

end Client

end SiteAnalytics
