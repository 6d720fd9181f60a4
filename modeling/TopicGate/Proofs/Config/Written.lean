import TopicGate.Config.Vendor
import TopicGate.Proofs.Json.Edits

/-!
# Written vendors

The records of a vendor, each with the fields that it is written with, their declared defaults and
what is a record in them; and that each record is read back from its written form, also where this
was edited.

## Main statements
* `Blacklist.reads`, `ClaimNames.reads`, `CodecParams.reads`, `TopicDefinition.reads`: the records of
  a vendor are read back.
* `Vendor.read_edited`: so is a vendor.
-/

namespace TopicGate

open Json (Dialect Reads Edit)
open Json.Edit (Field)

variable (dialect : Dialect)

/-! ## §1 Names and numbers -/

theorem AccessType.reads : Reads (ofJson? dialect) toJson Edit.kept := by
  apply Reads.kept
  intro access
  cases access <;> rfl

theorem Audience.reads : Reads (ofJson? dialect) toJson Edit.kept := by
  apply Reads.kept
  intro audience
  cases audience <;> rfl

theorem HashKind.reads : Reads (ofJson? dialect) toJson Edit.kept := by
  apply Reads.kept
  intro kind
  cases kind <;> rfl

namespace Json

theorem text_reads : Reads text? .text Edit.kept := Reads.kept fun _ => rfl

/-- No number of 64 bits is changed. -/
theorem uint64_reads : Reads uint64? (fun n => .int n.toNat) Edit.kept := by
  apply Reads.kept
  intro n
  simp [uint64?, UInt64.toNat_lt_size]

/-- Nor is one with a sign. -/
theorem int64_reads : Reads int64? (fun n => .int n.toInt) Edit.kept := by
  apply Reads.kept
  intro n
  rw [int64?, if_pos ⟨n.minValue_le_toInt, n.toInt_le⟩, Int64.ofInt_toInt]

/-- A number that may be missing. -/
theorem optionalInt64_reads :
    Reads (nullable? int64?) (ofOption fun n => .int n.toInt) Edit.kept := by
  apply Reads.kept
  intro n
  cases n with
  | none => rfl
  | some n => simp [ofOption, nullable?, int64_reads.read_write n]

end Json

/-! ## §2 The records of a vendor -/

/-- Goes on with what was read. -/
theorem bind_eq_some {α β : Type} {x : Option α} {next : α → Option β} {a : α} {b : β}
    (h : x = some a) (hnext : next a = some b) : (x >>= next) = some b := by
  rw [h]
  exact hnext

namespace Blacklist

def fields : List Field :=
  [{ name := "issuer", default := some .null },
    { name := "user_ids", edit := Edit.items Edit.kept, default := some (.array []) }]

theorem reads : Reads (ofJson? dialect) toJson (Edit.record fields) where
  read_of_edit := by
    intro blacklist edited hedit
    obtain ⟨ns, rfl, hfound⟩ := Edit.exists_found_of_record hedit (by decide)
    simp only [fields, List.zip_cons_cons, List.forall_mem_cons] at hfound
    obtain ⟨hissuer, husers, -⟩ := hfound
    exact bind_eq_some rfl <|
      bind_eq_some (Json.optionalInt64_reads.withDefault hissuer 0) <|
      bind_eq_some (Json.uint64_reads.list.withDefault husers 1) rfl
  edit_refl blacklist := by
    apply Edit.record_refl
    simp only [fields, List.forall₂_cons, true_and]
    exact ⟨Json.optionalInt64_reads.edit_refl _, Json.uint64_reads.list.edit_refl _, .nil⟩

end Blacklist

namespace ClaimNames

def fields : List Field :=
  [{ name := "iss_name", default := some (.text "iss") },
    { name := "sub_name", default := some (.text "sub") }]

theorem reads : Reads (ofJson? dialect) toJson (Edit.record fields) where
  read_of_edit := by
    intro names edited hedit
    obtain ⟨ns, rfl, hfound⟩ := Edit.exists_found_of_record hedit (by decide)
    simp only [fields, List.zip_cons_cons, List.forall_mem_cons] at hfound
    obtain ⟨hissuer, hsubject, -⟩ := hfound
    exact bind_eq_some rfl <| bind_eq_some (Json.text_reads.withDefault hissuer 0) <|
      bind_eq_some (Json.text_reads.withDefault hsubject 1) rfl
  edit_refl names := by
    apply Edit.record_refl
    simp only [fields, List.forall₂_cons, true_and]
    exact ⟨Json.text_reads.edit_refl _, Json.text_reads.edit_refl _, .nil⟩

end ClaimNames

namespace CodecParams

def fields : List Field := [{ name := "salt" }, { name := "length", default := some (.int 0) }]

theorem reads : Reads (ofJson? dialect) toJson (Edit.record fields) where
  read_of_edit := by
    intro params edited hedit
    obtain ⟨ns, rfl, hfound⟩ := Edit.exists_found_of_record hedit (by decide)
    simp only [fields, List.zip_cons_cons, List.forall_mem_cons] at hfound
    obtain ⟨hsalt, hlength, -⟩ := hfound
    exact bind_eq_some rfl <| bind_eq_some (Json.text_reads.required hsalt 0) <|
      bind_eq_some (Json.uint64_reads.withDefault hlength 1) rfl
  edit_refl params := by
    apply Edit.record_refl
    simp only [fields, List.forall₂_cons, true_and]
    exact ⟨Json.text_reads.edit_refl _, Json.uint64_reads.edit_refl params.length, .nil⟩

end CodecParams

namespace TopicDefinition

def fields : List Field :=
  [{ name := "type" }, { name := "template" },
    { name := "hash_kind", default := some (.text "identity") },
    { name := "accesses", edit := Edit.values Edit.kept, default := some (.object []) }]

theorem reads : Reads (ofJson? dialect) toJson (Edit.record fields) where
  read_of_edit := by
    intro definition edited hedit
    obtain ⟨ns, rfl, hfound⟩ := Edit.exists_found_of_record hedit (by decide)
    simp only [fields, List.zip_cons_cons, List.forall_mem_cons] at hfound
    obtain ⟨htype, htemplate, hkind, haccesses, -⟩ := hfound
    exact bind_eq_some rfl <| bind_eq_some (Json.text_reads.required htype 0) <|
      bind_eq_some (Json.text_reads.required htemplate 1) <|
      bind_eq_some ((HashKind.reads dialect).withDefault hkind 2) <|
      bind_eq_some ((AccessType.reads dialect).map.withDefault haccesses 3) rfl
  edit_refl definition := by
    apply Edit.record_refl
    simp only [fields, List.forall₂_cons, true_and]
    exact ⟨Json.text_reads.edit_refl _, Json.text_reads.edit_refl _, (HashKind.reads dialect).edit_refl _,
      (AccessType.reads dialect).map.edit_refl _, .nil⟩

end TopicDefinition

/-! ## §3 Vendors -/

namespace Vendor

/-- The fields of a vendor, with the records in them. -/
def fields : List Field :=
  [{ name := "company" },
    { name := "allowed_access_types", edit := Edit.items Edit.kept
      default := some (.array [.text "subscribe", .text "publish"]) },
    { name := "topics", edit := Edit.items (Edit.record TopicDefinition.fields)
      default := some (.array []) },
    { name := "issuers", edit := Edit.values Edit.kept, default := some (.object []) },
    { name := "jwt", edit := Edit.record ClaimNames.fields
      default := some (.object [("iss_name", .text "iss"), ("sub_name", .text "sub")]) },
    { name := "hashids", edit := Edit.values (Edit.record CodecParams.fields)
      default := some (.object []) },
    { name := "blacklist", edit := Edit.record Blacklist.fields
      default := some (.object [("issuer", .null), ("user_ids", .array [])]) }]

theorem reads : Reads (ofJson? dialect) toJson (Edit.record fields) where
  read_of_edit := by
    intro vendor edited hedit
    obtain ⟨ns, rfl, hfound⟩ := Edit.exists_found_of_record hedit (by decide)
    simp only [fields, List.zip_cons_cons, List.forall_mem_cons] at hfound
    obtain ⟨hcompany, haccess, htopics, hissuers, hnames, hcodec, hblacklist, -⟩ := hfound
    exact bind_eq_some rfl <| bind_eq_some (Json.text_reads.required hcompany 0) <|
      bind_eq_some ((AccessType.reads dialect).list.withDefault haccess 1) <|
      bind_eq_some ((TopicDefinition.reads dialect).list.withDefault htopics 2) <|
      bind_eq_some ((Audience.reads dialect).map.withDefault hissuers 3) <|
      bind_eq_some ((ClaimNames.reads dialect).withDefault hnames 4) <|
      bind_eq_some ((CodecParams.reads dialect).map.withDefault hcodec 5) <|
      bind_eq_some ((Blacklist.reads dialect).withDefault hblacklist 6) rfl
  edit_refl vendor := by
    apply Edit.record_refl
    simp only [fields, List.forall₂_cons, true_and]
    exact ⟨Json.text_reads.edit_refl _, (AccessType.reads dialect).list.edit_refl _,
      (TopicDefinition.reads dialect).list.edit_refl _, (Audience.reads dialect).map.edit_refl _,
      (ClaimNames.reads dialect).edit_refl _, (CodecParams.reads dialect).map.edit_refl _,
      (Blacklist.reads dialect).edit_refl _, .nil⟩

/-- **Written vendors are read back.**  A vendor is read from its written form, and also where
fields with the value of their default were left out of any record in it, members that name no field
were put into any, and the members of objects stand in another order. -/
theorem read_edited (vendor : Vendor) :
    ofJson? dialect vendor.toJson = some vendor ∧
      ∀ edited, Edit.record fields vendor.toJson edited → ofJson? dialect edited = some vendor :=
  ⟨(reads dialect).read_write vendor, fun _ hedit => (reads dialect).read_of_edit hedit⟩

/-! ### A vendor with the limits of its numbers -/

/-- A vendor with a topic, and with the least and the greatest of its numbers. -/
def box : Vendor where
  company := "box"
  topics := [{ type := "chat", template := "{company}/{room}" }]
  codecParams := TextMap.ofList [("driver", ⟨"salt", 18446744073709551615⟩)]
  blacklist := { issuer := some (-9223372036854775808) }

/-- The parameters of its codec in reverse order, with a member that names none of them. -/
def boxCodec : Json :=
  .object [("length", .int 18446744073709551615), ("lengths", .int 1), ("salt", .text "salt")]

/-- Its members without any field that has its default, with a member in each record that names no
field, and in reverse order. -/
def boxMembers : List (String × Json) :=
  [("blacklist", .object [("issuer", .int (-9223372036854775808)), ("why", .null)]),
    ("hashids", .object [("driver", boxCodec)]),
    ("topics", .array [.object
      [("type", .text "chat"), ("kind", .array []), ("template", .text "{company}/{room}")]]),
    ("Company", .text "snapp"), ("company", .text "box")]

theorem read_edited_box :
    Edit.record fields box.toJson (.object boxMembers) ∧
      ofJson? .json (.object boxMembers) = some box := by
  have htopic : Edit.record TopicDefinition.fields
      ({ type := "chat", template := "{company}/{room}" } : TopicDefinition).toJson
      (.object [("type", .text "chat"), ("kind", .array []),
        ("template", .text "{company}/{room}")]) :=
    ⟨_, _, _, rfl, rfl, .keep rfl (.add (by decide) (.keep rfl (.drop rfl (.drop rfl .nil)))),
      List.Perm.refl _⟩
  have hcodec : Edit.record CodecParams.fields
      (⟨"salt", 18446744073709551615⟩ : CodecParams).toJson boxCodec :=
    ⟨_, [("salt", _), ("lengths", .int 1), ("length", _)], _, rfl, rfl,
      .keep rfl (.add (by decide) (.keep rfl .nil)), (List.reverse_perm _).symm⟩
  have hcodecs : Edit.values (Edit.record CodecParams.fields)
      (box.codecParams.toJson CodecParams.toJson) (.object [("driver", boxCodec)]) :=
    ⟨_, [("driver", boxCodec)], _, rfl, rfl, .cons ⟨rfl, hcodec⟩ .nil, List.Perm.refl _⟩
  have hblacklist : Edit.record Blacklist.fields box.blacklist.toJson
      (.object [("issuer", .int (-9223372036854775808)), ("why", .null)]) :=
    ⟨_, _, _, rfl, rfl, .keep rfl (.drop rfl (.add (by decide) .nil)), List.Perm.refl _⟩
  have hbox : Edit.record fields box.toJson (.object boxMembers) := by
    refine ⟨_, boxMembers.reverse, _, rfl, rfl, ?_, List.reverse_perm _⟩
    exact .keep rfl <| .add (by decide) <| .drop rfl <|
      .keep ⟨_, _, rfl, rfl, .cons htopic .nil⟩ <| .drop rfl <| .drop rfl <|
      .keep hcodecs <| .keep hblacklist .nil
  exact ⟨hbox, (read_edited .json box).2 _ hbox⟩

end Vendor

end TopicGate
