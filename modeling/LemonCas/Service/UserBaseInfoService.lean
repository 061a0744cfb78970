import LemonCas.Java.Text
set_option autoImplicit false

/-!
# Service: looking a user up

`com.lemon.cas.service.UserBaseInfoService` and its JDBC implementation.  The
query is configuration (`lemon.querUserSql`), so what the database answers to it
is a parameter; what the implementation makes of the answer is here.  It insists
on exactly one row: the two exceptions of
`com.lemon.cas.exception.auth.login` tell a missing account from an ambiguous one.
-/

namespace LemonCas.Service

open LemonCas.Java

/-- `com.lemon.cas.entity.UserBaseInfoEntity`: one row of the query. -/
structure UserBaseInfoEntity where
  id : JString
  userName : JString
  password : JString
  status : Option Bool
  mobile : JString
  deriving DecidableEq, Repr

/-- `com.lemon.cas.service.UserBaseInfoService`. -/
structure UserBaseInfoService where
  queryByUserName : JString → Except Throwable UserBaseInfoEntity

/-- `org.springframework.jdbc.core.JdbcTemplate` with a row mapper to
`UserBaseInfoEntity`: run a statement with the given arguments. -/
structure JdbcTemplate where
  query : JString → List JString → Except Throwable (List UserBaseInfoEntity)

/-- `com.lemon.cas.service.impl.UserBaseInfoServiceImpl`. -/
structure UserBaseInfoServiceImpl where
  querUserSql : JString
  jdbcTemplate : JdbcTemplate

namespace UserBaseInfoServiceImpl

/-- The rows the configured query gives for a name. -/
def rows (service : UserBaseInfoServiceImpl) (userName : JString) :
    Except Throwable (List UserBaseInfoEntity) :=
  service.jdbcTemplate.query service.querUserSql [userName]

/-- What `queryByUserName` makes of the rows: no row and several rows are two
different failures, and one row is the user. -/
def singleUser : List UserBaseInfoEntity → Except Throwable UserBaseInfoEntity
  | [] => .error .accountNotPresenceException
  | [userBaseInfoEntity] => .ok userBaseInfoEntity
  | _ :: _ :: _ => .error .accountConfuseException

/-- `UserBaseInfoServiceImpl.queryByUserName`. -/
def queryByUserName (service : UserBaseInfoServiceImpl) (userName : JString) :
    Except Throwable UserBaseInfoEntity := do
  let userList ← service.rows userName
  singleUser userList

/-- The implementation behind the interface. -/
def toUserBaseInfoService (service : UserBaseInfoServiceImpl) : UserBaseInfoService :=
  ⟨service.queryByUserName⟩

theorem singleUser_eq_ok_iff {userList : List UserBaseInfoEntity} {row : UserBaseInfoEntity} :
    singleUser userList = .ok row ↔ userList = [row] := by
  match userList with
  | [] => simp [singleUser]
  | [only] => simp [singleUser]
  | _ :: _ :: _ => simp [singleUser]

theorem queryByUserName_of_rows {service : UserBaseInfoServiceImpl} {userName : JString}
    {userList : List UserBaseInfoEntity} (hrows : service.rows userName = .ok userList) :
    service.queryByUserName userName = singleUser userList := by
  rw [queryByUserName, hrows]
  rfl

/-- A user is found exactly when the query gives that row and no other. -/
theorem queryByUserName_eq_ok_iff {service : UserBaseInfoServiceImpl} {userName : JString}
    {row : UserBaseInfoEntity} :
    service.queryByUserName userName = .ok row ↔ service.rows userName = .ok [row] := by
  constructor
  · intro hfound
    cases hrows : service.rows userName with
    | error e =>
      rw [queryByUserName, hrows] at hfound
      cases hfound
    | ok userList =>
      rw [queryByUserName_of_rows hrows, singleUser_eq_ok_iff] at hfound
      rw [hfound]
  · intro hrows
    rw [queryByUserName_of_rows hrows, singleUser_eq_ok_iff]

end UserBaseInfoServiceImpl

end LemonCas.Service
