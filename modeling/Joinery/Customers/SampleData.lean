import Joinery.Customers.Tables

/-! Sample customers with their subscriptions, products and interactions. -/

namespace Joinery

/-- A sample customer. -/
structure SampleCustomer where
  /-- The identifier. -/
  id : String
  /-- The full name. -/
  name : String
  /-- The email address. -/
  email : String
  /-- The phone number. -/
  phone : String
  /-- How many days ago the record was created. -/
  age : Nat
  deriving DecidableEq, Repr

/-- A sample interaction. -/
structure SampleInteraction where
  /-- The customer that it was with. -/
  customer : String
  /-- What it was about. -/
  summary : String
  /-- How it came about. -/
  channel : String
  /-- How many days ago it was. -/
  age : Nat
  deriving DecidableEq, Repr

/-- A sample product. -/
structure SampleProduct where
  /-- The name. -/
  name : String
  /-- The stock keeping unit. -/
  sku : String
  /-- The number of licences. -/
  quantity : Nat
  /-- The unit price in hundredths. -/
  cents : Nat
  deriving DecidableEq, Repr

/-- A sample subscription. -/
structure SampleSubscription where
  /-- The customer who holds it. -/
  customer : String
  /-- The plan. -/
  plan : String
  /-- Its state. -/
  status : String
  /-- The day on which it starts, counted from the present one. -/
  firstDay : Int
  /-- The day on which it ends. -/
  lastDay : Int
  /-- The products on it. -/
  products : List SampleProduct
  deriving DecidableEq, Repr

/-- The sample customers. -/
def sampleCustomers : List SampleCustomer :=
  [⟨"C001", "John Doe", "john.doe@example.com", "+1-555-0101", 30⟩,
   ⟨"C002", "Jane Smith", "jane.smith@example.com", "+1-555-0102", 25⟩,
   ⟨"C003", "Bob Wilson", "bob.wilson@example.com", "+1-555-0103", 20⟩,
   ⟨"C004", "Alice Johnson", "alice.johnson@example.com", "+1-555-0104", 15⟩,
   ⟨"C005", "Charlie Brown", "charlie.brown@example.com", "+1-555-0105", 10⟩]

/-- The sample interactions. -/
def sampleInteractions : List SampleInteraction :=
  [⟨"C001", "Customer inquired about product pricing for enterprise plan", "email", 5⟩,
   ⟨"C001", "Follow-up call scheduled for next week regarding demo", "phone", 3⟩,
   ⟨"C001", "Customer requested technical documentation", "chat", 1⟩,
   ⟨"C002", "Discussed integration requirements with cloud services", "email", 4⟩,
   ⟨"C002", "Sent proposal for custom implementation", "email", 2⟩,
   ⟨"C003", "Support ticket opened for login issues", "chat", 6⟩,
   ⟨"C003", "Issue resolved, password reset completed", "chat", 5⟩,
   ⟨"C004", "Requested information about API rate limits", "email", 3⟩,
   ⟨"C004", "Upgraded to premium tier for higher limits", "phone", 1⟩,
   ⟨"C005", "New customer onboarding call completed", "phone", 8⟩,
   ⟨"C005", "Training session scheduled for team", "email", 6⟩,
   ⟨"C005", "First project deployment successful", "chat", 2⟩]

/-- The sample subscriptions. -/
def sampleSubscriptions : List SampleSubscription :=
  [⟨"C001", "Starter", "expired", -365, -30,
     [⟨"CloudSuite Basic", "CS-BAS", 5, 699⟩,
      ⟨"Cloud Storage 100GB", "STR-100", 1, 199⟩]⟩,
   ⟨"C001", "Professional", "cancelled", -180, -60,
     [⟨"CloudSuite Pro", "CS-PRO", 10, 2300⟩,
      ⟨"Identity Manager P1", "IDM-P1", 10, 600⟩,
      ⟨"Voice Connect", "VC-STD", 5, 800⟩]⟩,
   ⟨"C001", "Enterprise", "active", -30, 335,
     [⟨"CloudSuite Enterprise", "CS-ENT", 25, 3800⟩,
      ⟨"Identity Manager P2", "IDM-P2", 25, 900⟩,
      ⟨"Security Shield", "SEC-ENT", 25, 520⟩,
      ⟨"Analytics Pro", "ANL-PRO", 10, 1000⟩]⟩,
   ⟨"C002", "Starter", "expired", -400, -35,
     [⟨"CloudSuite Basic", "CS-BAS", 3, 699⟩]⟩,
   ⟨"C002", "Professional", "active", -25, 340,
     [⟨"CloudSuite Pro", "CS-PRO", 15, 2300⟩,
      ⟨"DevOps Platform", "DEV-BAS", 10, 600⟩,
      ⟨"Code Repository Enterprise", "CR-ENT", 10, 2100⟩]⟩,
   ⟨"C003", "Starter", "active", -20, 345,
     [⟨"CloudSuite Basic", "CS-BAS", 2, 699⟩,
      ⟨"Cloud Storage 100GB", "STR-100", 2, 199⟩]⟩,
   ⟨"C004", "Starter", "expired", -300, -200,
     [⟨"CloudSuite Basic", "CS-BAS", 1, 699⟩]⟩,
   ⟨"C004", "Professional", "expired", -200, -5,
     [⟨"CloudSuite Pro", "CS-PRO", 5, 2300⟩,
      ⟨"CRM Platform", "CRM-STD", 3, 9500⟩]⟩,
   ⟨"C004", "Premium", "active", -1, 364,
     [⟨"CloudSuite Enterprise", "CS-ENT", 10, 3800⟩,
      ⟨"CRM Platform", "CRM-STD", 5, 9500⟩,
      ⟨"Automation Platform", "AUTO-PRO", 5, 4000⟩]⟩,
   ⟨"C005", "Professional", "cancelled", -100, -50,
     [⟨"CloudSuite Pro", "CS-PRO", 8, 2300⟩]⟩,
   ⟨"C005", "Enterprise", "active", -8, 357,
     [⟨"CloudSuite Enterprise", "CS-ENT", 20, 3800⟩,
      ⟨"Identity Manager P2", "IDM-P2", 20, 900⟩,
      ⟨"AI Assistant", "AI-PRO", 10, 3000⟩]⟩]

end Joinery
