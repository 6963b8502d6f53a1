import SellProbe.Network.Registry
import SellProbe.Proofs.Overrides
import SellProbe.Proofs.Reparsing
import SellProbe.Token

/-!
# Records there and back

A value is restored by a reader if the reader finds it in what is written for it, and what is
written is proper JSON, so that its text can be read at all. Texts, numbers and addresses are
restored, with them lists and the members of an object, and with these the records of tokens,
profiles and registries (`restored_from_text`).
-/

namespace SellProbe

namespace Directory

variable {α : Type}

theorem insertEntry_of_lt {name : String} {v : α} {es : List (String × α)}
    (h : ∀ e ∈ es, e.1 < name) : insertEntry name v es = es ++ [(name, v)] := by
  induction es with
  | nil => rfl
  | cons e es ih =>
    have hlt : e.1 < name := h e List.mem_cons_self
    have hne : name ≠ e.1 := fun heq => String.lt_irrefl name (heq ▸ hlt)
    rw [insertEntry, if_neg (String.lt_asymm hlt), if_neg hne,
      ih fun x hx => h x (List.mem_cons_of_mem _ hx)]
    rfl

theorem entries_ofList {es : List (String × α)} (h : es.Pairwise fun a b => a.1 < b.1) :
    (ofList es).entries = es := by
  induction es using List.reverseRecOn with
  | nil => rfl
  | append_singleton es e ih =>
    obtain ⟨hes, -, hlast⟩ := List.pairwise_append.1 h
    have hlt : ∀ x ∈ es, x.1 < e.1 := fun x hx => hlast x hx e List.mem_cons_self
    rw [ofList_concat]
    show insertEntry e.1 e.2 (ofList es).entries = es ++ [e]
    rw [ih hes]
    exact insertEntry_of_lt hlt

theorem ofList_entries (d : Directory α) : ofList d.entries = d := ext (entries_ofList d.increasing)

end Directory

namespace Json

variable {α : Type}

/-! ## Fields of a record -/

def hasKey (key : String) (m : Text × Json) : Bool := m.1 == some key

theorem filter_hasKey_of_notMem {ms : List (String × Json)} {key : String}
    (h : key ∉ ms.map Prod.fst) : (ms.map keyed).filter (hasKey key) = [] := by
  rw [List.filter_eq_nil_iff, List.forall_mem_map]
  intro m hm heq
  have hkey : m.1 = key := Option.some.inj (eq_of_beq heq)
  exact h (hkey ▸ List.mem_map_of_mem hm)

theorem filter_hasKey {ms : List (String × Json)} (hms : (ms.map Prod.fst).Nodup) (key : String) :
    (ms.map keyed).filter (hasKey key) = (List.lookup key ms).toList.map (some key, ·) := by
  induction ms with
  | nil => rfl
  | cons m ms ih =>
    obtain ⟨hm, hms⟩ := List.nodup_cons.1 hms
    rw [List.map_cons, List.lookup_cons]
    by_cases hkey : key = m.1
    · have hhit : hasKey key (keyed m) = true := beq_iff_eq.2 (congrArg some hkey.symm)
      rw [List.filter_cons_of_pos hhit, filter_hasKey_of_notMem (hkey ▸ hm), beq_iff_eq.2 hkey, hkey]
      rfl
    · have hmiss : ¬hasKey key (keyed m) = true := fun heq =>
        hkey (Option.some.inj (eq_of_beq heq)).symm
      rw [List.filter_cons_of_neg hmiss, ih hms, beq_false_of_ne hkey]

theorem once?_keyed {ms : List (String × Json)} (hms : (ms.map Prod.fst).Nodup) (key : String) :
    once? (ms.map keyed) key = some (List.lookup key ms) := by
  have hfilter : (ms.map keyed).filter (fun m => m.1 == some key) =
      (List.lookup key ms).toList.map (some key, ·) := filter_hasKey hms key
  rw [once?, hfilter]
  cases List.lookup key ms <;> rfl

/-- In a record whose keys all differ each name has its own value. -/
theorem fields?_record {ms : List (String × Json)} (hms : (ms.map Prod.fst).Nodup)
    (names : List String) :
    (record ms).fields? names = some (names.map fun name => List.lookup name ms) := by
  have hkeys : (ms.map keyed).all (·.1.isSome) = true := by simp [keyed]
  have honce : once? (ms.map keyed) = fun name => some (List.lookup name ms) :=
    funext (once?_keyed hms)
  rw [record_eq, fields?, if_pos hkeys, honce]
  exact List.mapM_pure

/-! ## What readers restore -/

/-- What is written for a value is proper and read as that value. -/
structure Restores (read : Json → Option α) (write : α → Json) : Prop where
  isProper : ∀ a, (write a).IsProper
  read_write : ∀ a, read (write a) = some a

variable {read : Json → Option α} {write : α → Json}

theorem Restores.parse?_bind (h : Restores read write) (a : α) :
    (parse? (write a).print).bind read = some a := by
  rw [parse?_print (h.isProper a)]
  exact h.read_write a

theorem restores_text : Restores text? text := ⟨isProper_text, fun _ => rfl⟩

theorem natBelow?_nat {n bound : Nat} (h : n < bound) : (nat n).natBelow? bound = some n := by
  rw [nat, natBelow?, Number.toNat?_ofNat]
  exact if_pos h

theorem restores_uint8 : Restores uint8? fun v => nat v.toNat where
  isProper _ := isProper_nat _
  read_write v := by
    rw [uint8?, natBelow?_nat v.toNat_lt]
    exact congrArg some UInt8.ofNat_toNat

theorem restores_uint64 : Restores uint64? fun v => nat v.toNat where
  isProper _ := isProper_nat _
  read_write v := by
    rw [uint64?, natBelow?_nat v.toNat_lt]
    exact congrArg some UInt64.ofNat_toNat

theorem hexBytes?_encode {least most : Nat} {bs : Bytes} (hleast : least ≤ 2 * bs.length)
    (hmost : 2 * bs.length ≤ most) : hexBytes? least most (Hex.encode bs) = some bs := by
  have hmark : Hex.dropMark (Hex.encode bs).toList = Hex.digits bs := by
    rw [Hex.encode, String.toList_ofList]
    rfl
  have hbounds : least ≤ 2 * bs.length ∧ 2 * bs.length ≤ most := ⟨hleast, hmost⟩
  have heven : ¬2 * bs.length % 2 = 1 := by omega
  simp only [hexBytes?, hmark, Hex.utf8Length_digits, Hex.values?_digits, if_pos hbounds,
    if_neg heven, Option.map_some, Hex.pack_halves]

theorem restores_address : Restores Address.ofJson? FixedBytes.toJson where
  isProper _ := isProper_text _
  read_write a := by
    have hbytes : hexBytes? 40 40 a.toHex = some a.toList :=
      hexBytes?_encode (by rw [a.length_toList]) (by rw [a.length_toList])
    have hfull : 20 - a.toList.length = 0 := by rw [a.length_toList]
    rw [Address.ofJson?, FixedBytes.toJson, restores_text.read_write]
    simp only [Option.bind_eq_bind, Option.bind_some, hbytes, hfull, List.replicate_zero,
      List.append_nil]
    exact a.ofList?_toList

theorem mapM_map_eq_some {β : Type} {f : α → β} {g : β → Option α} (h : ∀ a, g (f a) = some a)
    (as : List α) : (as.map f).mapM g = some as := by
  induction as with
  | nil => rfl
  | cons a as ih =>
    rw [List.map_cons, List.mapM_cons, h, ih]
    rfl

theorem Restores.list (h : Restores read write) :
    Restores (list? read) fun as => .array (as.map write) where
  isProper _ := isProper_array (List.forall_mem_map.2 fun a _ => h.isProper a)
  read_write := mapM_map_eq_some h.read_write

def readMember (read : Json → Option α) : Text × Json → Option (String × α)
  | (key, v) => do return (← key, ← read v)

theorem readMember_keyed (h : Restores read write) (a : String × α) :
    readMember read (keyed (a.1, write a.2)) = some a := by
  show (read (write a.2)).bind (fun v => some (a.1, v)) = some a
  rw [h.read_write]
  rfl

theorem Restores.members (h : Restores read write) :
    Restores (members? read) fun as : List (String × α) =>
      record (as.map fun (n, a) => (n, write a)) where
  isProper _ := isProper_record (List.forall_mem_map.2 fun a _ => h.isProper a.2)
  read_write as := by
    show ((as.map fun a => (a.1, write a.2)).map keyed).mapM (readMember read) = some as
    rw [List.map_map]
    exact mapM_map_eq_some (readMember_keyed h) as

end Json

/-! ## Tokens, profiles and registries -/

open Json

theorem Json.isProper_recordOf {ms : List (Option (String × Json))}
    (hms : ∀ o ∈ ms, ∀ m, o = some m → m.2.IsProper) : (recordOf ms).IsProper := by
  refine isProper_record fun m hm => ?_
  obtain ⟨o, ho, hsome⟩ := List.mem_filterMap.1 hm
  exact hms o ho m hsome

namespace Token

theorem isProper_toJson (t : Token) : t.toJson.IsProper := by
  refine isProper_recordOf ?_
  simp only [List.forall_mem_cons]
  refine ⟨?_, ?_, ?_, ?_, List.forall_mem_nil _⟩
  · rintro m ⟨⟩
    exact isProper_text _
  · rintro m ⟨⟩
    exact isProper_text _
  · intro m hm
    obtain ⟨name, -, rfl⟩ := Option.map_eq_some_iff.1 hm
    exact isProper_text _
  · rintro m ⟨⟩
    exact isProper_nat _

theorem fields?_toJson (t : Token) :
    t.toJson.fields? ["address", "symbol", "name", "decimal"] = some
      [some t.address.toJson, some (.text t.symbol), t.name.map .text,
        some (.nat t.decimals.toNat)] := by
  rw [toJson, recordOf]
  cases t.name with
  | none =>
    have hkeys : ["address", "symbol", "decimal"].Nodup := by decide
    refine (fields?_record ?_ _).trans rfl
    exact hkeys
  | some name =>
    have hkeys : ["address", "symbol", "name", "decimal"].Nodup := by decide
    refine (fields?_record ?_ _).trans rfl
    exact hkeys

theorem restores : Restores ofJson? toJson where
  isProper := isProper_toJson
  read_write t := by
    have haddress := restores_address.read_write t.address
    have hsymbol := restores_text.read_write t.symbol
    have hname : nullable? text? (t.name.map .text) = some t.name := by cases t.name <;> rfl
    have hdecimals := restores_uint8.read_write t.decimals
    rw [ofJson?, fields?_toJson]
    simp only [Option.bind_eq_bind, Option.bind_some, required?, haddress, hsymbol, hname, hdecimals]
    rfl

-- A token without a name has no such member, and a control in a text is escaped.
example : (Token.mk (FixedBytes.ofNat 20 0x7e) "T\n" none 18).toJson.print =
    "\x7b\"address\":\"0x000000000000000000000000000000000000007e\"," ++
      "\"symbol\":\"T\\n\",\"decimal\":18\x7d" := by rfl

end Token

namespace Profile

theorem isProper_toJson (p : Profile) : p.toJson.IsProper := by
  refine isProper_record ?_
  simp only [List.forall_mem_cons]
  exact ⟨isProper_text _, isProper_nat _, isProper_text _, isProper_text _, isProper_text _,
    isProper_text _, restores_address.list.isProper _, restores_address.members.isProper _,
    List.forall_mem_nil _⟩

theorem fields?_toJson (p : Profile) :
    p.toJson.fields? ["name", "chainId", "rpc", "wrappedNative", "router", "factory",
      "burnAddresses", "lockers"] = some
      [some (.text p.name), some (.nat p.chainId.toNat), some (.text p.rpc),
        some p.wrappedNative.toJson, some p.router.toJson, some p.factory.toJson,
        some (.array (p.burnAddresses.map (·.toJson))),
        some (.record (p.lockers.entries.map fun (n, a) => (n, a.toJson)))] := by
  have hkeys : ["name", "chainId", "rpc", "wrappedNative", "router", "factory",
      "burnAddresses", "lockers"].Nodup := by decide
  refine (fields?_record ?_ _).trans rfl
  exact hkeys

theorem restores : Restores ofJson? toJson where
  isProper := isProper_toJson
  read_write p := by
    have hname := restores_text.read_write p.name
    have hchainId := restores_uint64.read_write p.chainId
    have hrpc := restores_text.read_write p.rpc
    have haddress := restores_address.read_write
    have hburnAddresses := restores_address.list.read_write p.burnAddresses
    have hlockers := restores_address.members.read_write p.lockers.entries
    rw [ofJson?, fields?_toJson]
    simp only [Option.bind_eq_bind, Option.bind_some, required?, withDefault?, hname, hchainId, hrpc,
      haddress, hburnAddresses, hlockers, Directory.ofList_entries]
    rfl

end Profile

namespace Registry

theorem fields?_toJson (r : Registry) : r.toJson.fields? ["networks"] =
    some [some (.record (r.networks.entries.map fun (n, p) => (n, p.toJson)))] := by
  have hkeys : ["networks"].Nodup := by decide
  refine (fields?_record ?_ _).trans rfl
  exact hkeys

theorem restores : Restores ofJson? toJson where
  isProper r := isProper_record (List.forall_mem_singleton.2 (Profile.restores.members.isProper _))
  read_write r := by
    have hnetworks := Profile.restores.members.read_write r.networks.entries
    rw [ofJson?, fields?_toJson]
    simp only [Option.bind_eq_bind, Option.bind_some, required?, hnetworks, Directory.ofList_entries]
    rfl

/-- The text of a list of profiles is loaded as the registry of these profiles. -/
theorem load_print (ps : List Profile) :
    load (Json.array (ps.map Profile.toJson)).print = .ok (ofProfiles ps) := by
  rw [load, Profile.restores.list.parse?_bind ps]

end Registry

/-- **Tokens, profiles and registries survive their text.** Each is read from what is written for
it, whatever its texts, numbers and lists are. The fields with names of their own stand under these
names: a name of a token that there is not is left out, and burn wallets are written even if there
are none. -/
theorem restored_from_text (t : Token) (p : Profile) (r : Registry) :
    (Json.parse? t.toJson.print).bind Token.ofJson? = some t ∧
    (Json.parse? p.toJson.print).bind Profile.ofJson? = some p ∧
    (Json.parse? r.toJson.print).bind Registry.ofJson? = some r ∧
    (t.toJson.get? "name" = t.name.map Json.text ∧
      t.toJson.get? "decimal" = some (.nat t.decimals.toNat)) ∧
    p.toJson.get? "chainId" = some (.nat p.chainId.toNat) ∧
    p.toJson.get? "wrappedNative" = some p.wrappedNative.toJson ∧
    p.toJson.get? "burnAddresses" = some (.array (p.burnAddresses.map (·.toJson))) := by
  have htoken : t.toJson.get? "name" = t.name.map Json.text ∧
      t.toJson.get? "decimal" = some (.nat t.decimals.toNat) := by
    rw [Token.toJson]
    cases t.name <;> exact ⟨rfl, rfl⟩
  exact ⟨Token.restores.parse?_bind t, Profile.restores.parse?_bind p,
    Registry.restores.parse?_bind r, htoken, rfl, rfl, rfl⟩

end SellProbe
