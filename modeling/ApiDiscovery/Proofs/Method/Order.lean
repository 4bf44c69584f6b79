import ApiDiscovery.Proofs.Method.Address
import ApiDiscovery.Proofs.Method.Filling
import ApiDiscovery.Proofs.NameTable
import Mathlib.Data.List.Nodup

/-!
# The order of arguments

Arguments of different names fill different placeholders, and whether one finds
a placeholder its name decides, not what was given before it.  So however they
are ordered they fill the path alike and leave the same parameters over.
-/

namespace ApiDiscovery

/-- The parameters of the arguments whose names are no placeholder's. -/
def PathTemplate.leftOver (template : PathTemplate) (arguments : List (String × Json)) :
    List (List Char) :=
  (arguments.filter fun pair => pair.1 ∉ template.names).map (written ∘ argumentParameter)

namespace Assembly

/-- In which order arguments of different names come does not matter to the template. -/
theorem template_giveAll_perm (assembly : Assembly) {arguments others : List (String × Json)}
    (permuted : arguments.Perm others) (distinct : (arguments.map Prod.fst).Nodup) :
    (assembly.giveAll arguments).template = (assembly.giveAll others).template := by
  rw [template_giveAll, template_giveAll]
  apply permuted.foldl_eq'
  intro first firstGiven second secondGiven template
  by_cases same : first.1 = second.1
  · rw [List.inj_on_of_nodup_map distinct firstGiven secondGiven same]
  · exact template.put_comm same _ _

/-- An argument becomes a parameter exactly if no empty placeholder has its name. -/
theorem parameters_give (assembly : Assembly) (name : String) (argument : Json) :
    (assembly.give name argument).parameters =
      assembly.parameters ++
        if (name, false) ∈ Slot.outline assembly.template.slots then []
        else [written (argumentParameter (name, argument))] := by
  rw [give, PathTemplate.fill]
  cases done : Slot.fillFirst name (Text.Percent.encode (ApiMethod.argumentText argument))
      assembly.template.slots with
  | none =>
      rw [if_neg (Slot.fillFirst_eq_none_iff.1 done)]
      rfl
  | some slots =>
      have held : (name, false) ∈ Slot.outline assembly.template.slots := by
        by_contra missing
        cases done.symm.trans (Slot.fillFirst_eq_none_iff.2 missing)
      rw [if_pos held, List.append_nil]
      rfl

/-- Of arguments of different names those are left over that had no placeholder from the start. -/
theorem parameters_giveAll (assembly : Assembly) {arguments : List (String × Json)}
    (distinct : (arguments.map Prod.fst).Nodup) :
    (assembly.giveAll arguments).parameters =
      assembly.parameters ++
        (arguments.filter fun pair =>
          (pair.1, false) ∉ Slot.outline assembly.template.slots).map (written ∘ argumentParameter) := by
  induction arguments generalizing assembly with
  | nil => simp [giveAll]
  | cons pair arguments ih =>
      obtain ⟨name, argument⟩ := pair
      rw [List.map_cons, List.nodup_cons] at distinct
      obtain ⟨fresh, distinctBehind⟩ := distinct
      -- The first argument may fill a placeholder, but none that the others look for.
      have unchanged : ∀ pair ∈ arguments,
          (pair.1, false) ∈ Slot.outline (assembly.give name argument).template.slots ↔
            (pair.1, false) ∈ Slot.outline assembly.template.slots := by
        intro pair member
        rw [outline_give]
        refine Slot.mem_mark_iff fun same => fresh ?_
        exact List.mem_map.2 ⟨pair, member, same⟩
      have filtered : (arguments.filter fun pair =>
            (pair.1, false) ∉ Slot.outline (assembly.give name argument).template.slots) =
          arguments.filter fun pair => (pair.1, false) ∉ Slot.outline assembly.template.slots :=
        List.filter_congr fun pair member => by simp only [unchanged pair member]
      have behind := ih (assembly.give name argument) distinctBehind
      rw [filtered, parameters_give] at behind
      refine behind.trans ?_
      rw [List.filter_cons, List.append_assoc]
      by_cases held : (name, false) ∈ Slot.outline assembly.template.slots
      · simp [held]
      · simp [held]

end Assembly

namespace ApiMethod

variable {method : ApiMethod} {template : PathTemplate} {arguments others : List (String × Json)}

/-- The parameters of a call with different names: the key, and what is no placeholder's. -/
theorem parameters_of_distinct (documented : template.Documents method.path.toList)
    (distinct : (arguments.map Prod.fst).Nodup)
    (namesFree : ∀ pair ∈ arguments, BraceFree pair.1.toList) :
    (method.target arguments).parameters =
      method.binding.parameters ++ template.leftOver arguments := by
  have started : (Assembly.start template method.binding.apiKey).parameters =
      method.binding.parameters := by
    rw [Assembly.start, Binding.parameters]
    cases method.binding.apiKey <;> rfl
  rw [(target_eq_giveAll documented namesFree).1, Assembly.target]
  refine (Assembly.parameters_giveAll _ distinct).trans ?_
  rw [started, PathTemplate.leftOver, Assembly.start]
  simp only [documented.mem_outline_iff]

theorem path_of_permuted (documented : template.Documents method.path.toList)
    (permuted : arguments.Perm others) (distinct : (arguments.map Prod.fst).Nodup)
    (namesFree : ∀ pair ∈ arguments, BraceFree pair.1.toList) :
    (method.target arguments).path = (method.target others).path := by
  have othersFree : ∀ pair ∈ others, BraceFree pair.1.toList := fun pair member =>
    namesFree pair (permuted.mem_iff.2 member)
  rw [(target_eq_giveAll documented namesFree).1, (target_eq_giveAll documented othersFree).1,
    Assembly.target, Assembly.target, Assembly.template_giveAll_perm _ permuted distinct]

/--
Arguments of different names address the same in every order, also in that of an
object, which is the order of the names.  Behind the question mark there are the
key, if there is one, and the arguments whose names are no placeholder's: the
same parameters in another order.
-/
theorem address_of_permuted (method : ApiMethod) (template : PathTemplate)
    (documented : template.Documents method.path.toList) (arguments others : List (String × Json))
    (permuted : arguments.Perm others) (distinct : (arguments.map Prod.fst).Nodup)
    (namesFree : ∀ pair ∈ arguments, BraceFree pair.1.toList) :
    method.requestUrl arguments = method.address arguments ++ "?" ++ method.query arguments ∧
    method.requestUrl others = method.address others ++ "?" ++ method.query others ∧
    method.address arguments = method.address others ∧
    (method.target arguments).path = (method.target others).path ∧
    (method.target arguments).parameters =
      method.binding.parameters ++ template.leftOver arguments ∧
    (method.target others).parameters =
      method.binding.parameters ++ template.leftOver others ∧
    (template.leftOver arguments).Perm (template.leftOver others) ∧
    method.address (NameTable.ofList others) = method.address arguments := by
  have othersDistinct : (others.map Prod.fst).Nodup :=
    (permuted.map Prod.fst).nodup_iff.1 distinct
  have othersFree : ∀ pair ∈ others, BraceFree pair.1.toList := fun pair member =>
    namesFree pair (permuted.mem_iff.2 member)
  have same := path_of_permuted documented permuted distinct namesFree
  have members : arguments.Perm (NameTable.ofList others) :=
    permuted.trans (NameTable.ofList_perm othersDistinct).symm
  have sameMembers := path_of_permuted documented members distinct namesFree
  refine ⟨requestUrl_eq .., requestUrl_eq .., ?_, same,
    parameters_of_distinct documented distinct namesFree,
    parameters_of_distinct documented othersDistinct othersFree, ?_, ?_⟩
  · rw [address, address, same]
  · exact (permuted.filter _).map _
  · rw [address, address, sameMembers]

/-- Arguments of which two have a placeholder, and one of them the name of a delimiter. -/
def copyArguments : List (String × Json) :=
  [("q", .string "\x7bobject\x7d"), ("object", .string "a/b"), ("&", .null),
    ("bucket", .string "\x7bbucket\x7d")]

theorem address_of_permuted_copyArguments :
    copyPath.Documents copyMethod.path.toList ∧
    copyMethod.address copyArguments.reverse =
      "https://x/b/%7Bbucket%7D/o/a%2Fb/to/\x7bbucket\x7d" ∧
    copyMethod.query copyArguments = "key=k&q=%7Bobject%7D&&=null" ∧
    copyMethod.query copyArguments.reverse = "key=k&&=null&q=%7Bobject%7D" ∧
    copyMethod.address copyArguments = copyMethod.address copyArguments.reverse := by
  have permuted : copyArguments.Perm copyArguments.reverse := (List.reverse_perm _).symm
  have names : ∀ pair ∈ copyArguments, BraceFree pair.1.toList := by
    simp [copyArguments, BraceFree]
  exact ⟨documents_copyPath, by decide +kernel, by decide +kernel, by decide +kernel,
    (address_of_permuted copyMethod copyPath documents_copyPath copyArguments _ permuted
      (by decide) names).2.2.1⟩

end ApiMethod

end ApiDiscovery
