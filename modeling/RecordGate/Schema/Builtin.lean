import RecordGate.Schema.Basic

/-!
# Built-in schemas

One schema for each record type.
-/

namespace RecordGate.Schema

private def critical (c : Condition) : Constraint := ⟨c, .critical, none⟩

private def upTo (n : Nat) : Constraint := critical (.maxLength n)

private def positive : Constraint := critical (.min .zero true)

private def nonNegative : Constraint := critical (.min .zero false)

private def oneOf (values : List String) : Constraint := critical (.oneOf values)

private def notInFuture : Constraint := critical .notInFuture

private def shaped (regex message : String) : Constraint := ⟨.pattern regex, .critical, some message⟩

private def required (name : String) (type : FieldType) (constraints : List Constraint) : Field :=
  ⟨name, type, true, constraints⟩

private def optional (name : String) (type : FieldType) (constraints : List Constraint) : Field :=
  ⟨name, type, false, constraints⟩

def sales : Schema where
  recordType := .sales
  fields := [
    required "transaction_id" .text
      [upTo 50, shaped "^TXN-\\d\x7b11\x7d$" "transaction_id must follow format TXN-YYYYMMDDNNN"],
    required "date" .date [notInFuture],
    required "customer_id" .text [upTo 50],
    required "item_id" .text [upTo 50],
    required "quantity" .integer [positive],
    required "unit_price" .decimal [positive],
    required "total_amount" .decimal [positive],
    required "payment_method" .text [oneOf ["CASH", "CARD", "E-WALLET"]]]
  aliases := .ofList [
    ("txn_id", "transaction_id"), ("trans_id", "transaction_id"), ("cust_id", "customer_id"),
    ("product_id", "item_id"), ("qty", "quantity"), ("price", "unit_price"),
    ("total", "total_amount"), ("payment", "payment_method")]

def inventory : Schema where
  recordType := .inventory
  fields := [
    required "item_id" .text
      [upTo 50, shaped "^ITEM-\\d\x7b3,\x7d$" "item_id must follow format ITEM-NNN (minimum 3 digits)"],
    required "item_name" .text [upTo 255],
    required "category" .text [oneOf ["AUTO_PARTS", "ELECTRONICS", "FOOD", "CLOTHING", "MISC"]],
    required "quantity_on_hand" .integer [nonNegative],
    required "reorder_level" .integer [nonNegative],
    required "last_updated" .timestamp [notInFuture],
    optional "cost_price" .decimal [nonNegative],
    optional "status" .text [oneOf ["ACTIVE", "DISCONTINUED"]]]
  aliases := .ofList [
    ("id", "item_id"), ("product_id", "item_id"), ("name", "item_name"), ("product_name", "item_name"),
    ("type", "category"), ("stock", "quantity_on_hand"), ("qty", "quantity_on_hand"),
    ("min_stock", "reorder_level"), ("reorder_point", "reorder_level"), ("updated", "last_updated"),
    ("timestamp", "last_updated"), ("price", "cost_price"), ("unit_cost", "cost_price")]

def expense : Schema where
  recordType := .expense
  fields := [
    required "expense_id" .text
      [upTo 50, shaped "^EXP-\\d\x7b8\x7d-\\d\x7b3\x7d$" "expense_id must follow format EXP-YYYYMMDD-NNN"],
    required "date" .date [notInFuture],
    required "category" .text [oneOf ["SUPPLIES", "UTILITIES", "RENT", "SALARY", "MISC"]],
    required "amount" .decimal [positive],
    required "description" .text
      [upTo 500, ⟨.minLength 10, .warning, some "description should be at least 10 characters"⟩],
    required "approved_by" .text [upTo 50],
    optional "justification" .text [upTo 500]]
  aliases := .ofList [
    ("exp_id", "expense_id"), ("expense_type", "category"), ("cost", "amount"), ("total", "amount"),
    ("desc", "description"), ("approver", "approved_by"), ("approved_by_id", "approved_by"),
    ("reason", "justification")]

/-- The built-in schema of a record type. -/
def builtin : RecordType → Schema
  | .sales => sales
  | .inventory => inventory
  | .expense => expense

end RecordGate.Schema
