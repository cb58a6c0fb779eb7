import SiteAnalytics.Zone.Clock

/-!
# The wall clocks of named zones

One clock per zone, as the time zone database records it: the offset of local mean time, then every
change up to the end of 2037. After the last change its offset stays in force.

Mostly two offsets take turns, those of standard time and of summer time. A clock is therefore
written down in phases: the offset after the first change of the phase, the offset after the second,
and the instants of all its changes. Instants are counted in seconds from an origin that lies before
all of them.
-/

namespace SiteAnalytics

/-! ### Phases -/

namespace Clock

/-- The origin of the instants in the table. -/
def tableOrigin : Int := -4294967296

/-- The changes at some instants: to `offset`, then to `other`, and so on in turn. -/
def inTurn (offset other : Int) : List Nat → List (Int × Int)
  | [] => []
  | instant :: rest => (tableOrigin + instant, offset) :: inTurn other offset rest

/-- The clock with the given phases. -/
def ofPhases (first : Int) (phases : List (Int × Int × List Nat)) : Clock :=
  ⟨first, phases.flatMap fun (offset, other, instants) => inTurn offset other instants⟩

end Clock

/-! ### Zones -/

namespace Zone

/-- The clock of Europe/Kyiv. -/
def europeKyiv : Clock := .ofPhases 7324 [
  (7200, 10800, [2853807972, 3047430496, 3402444496]),
  (3600, 7200, [3437710096, 3450410896, 3466740496]),
  (10800, 14400, [
    3469584496, 4649887696, 4665695296, 4681423696, 4697231296, 4712959696, 4728767296,
    4744582096, 4760314096, 4776038896, 4791763696, 4807488496, 4823213296, 4838938096,
    4854662896, 4870387696, 4886112496, 4901837296, 4917562096, 4933286896, 4941750496]),
  (7200, 10800, [
    4981069696, 4996794496, 5012519296, 5028244096, 5043968896, 5059693696, 5075418496,
    5091143296, 5106868096, 5123197696, 5141345296, 5154650896, 5172794896, 5186100496,
    5204244496, 5217550096, 5236298896, 5248999696, 5267748496, 5280449296, 5299198096,
    5312503696, 5330647696, 5343953296, 5362097296, 5375402896, 5394151696, 5406852496,
    5425601296, 5438302096, 5457050896, 5469751696, 5488500496, 5501806096, 5519950096,
    5533255696, 5551399696, 5564705296, 5583454096, 5596154896, 5614903696, 5627604496,
    5646353296, 5659658896, 5677802896, 5691108496, 5709252496, 5722558096, 5740702096,
    5754007696, 5772756496, 5785457296, 5804206096, 5816906896, 5835655696, 5848961296,
    5867105296, 5880410896, 5898554896, 5911860496, 5930609296, 5943310096, 5962058896,
    5974759696, 5993508496, 6006814096, 6024958096, 6038263696, 6056407696, 6069713296,
    6087857296, 6101162896, 6119911696, 6132612496, 6151361296, 6164062096, 6182810896,
    6196116496, 6214260496, 6227566096, 6245710096, 6259015696, 6277764496, 6290465296,
    6309214096, 6321914896, 6340663696, 6353364496, 6372113296, 6385418896, 6403562896,
    6416868496, 6435012496])]

/-- The clock of America/New_York. -/
def americaNewYork : Clock := .ofPhases (-17762) [
  (-18000, -14400, [
    1577316496, 2661686896, 2679827296, 2693136496, 2711276896, 2724586096, 2743331296,
    2758454896, 2771756896, 2790509296, 2803206496, 2821958896, 2835260896, 2853408496,
    2866710496, 2884858096, 2898160096, 2916307696, 2929609696, 2947757296, 2961059296,
    2979811696, 2993113696, 3011261296, 3024563296, 3042710896, 3056012896, 3074160496,
    3087462496, 3105610096, 3118912096, 3137664496, 3150361696, 3169114096, 3182416096,
    3200563696, 3213865696, 3232013296, 3245315296, 3263462896, 3276764896, 3294912496,
    3308214496, 3326966896, 3339664096, 3358416496, 3371718496, 3389866096, 3403168096,
    3414749296, 3529571296, 3547718896, 3561020896, 3579168496, 3592470496, 3610618096,
    3623920096, 3642067696, 3655369696, 3674122096, 3686819296, 3705571696, 3718873696,
    3737021296, 3750323296, 3768470896, 3781772896, 3799920496, 3813222496, 3831370096,
    3847696096, 3863424496, 3879145696, 3894874096, 3910595296, 3926323696, 3942044896,
    3957773296, 3973494496, 3989222896, 4005548896, 4021277296, 4036998496, 4052726896,
    4068448096, 4084176496, 4099897696, 4115626096, 4131347296, 4147075696, 4163401696,
    4178525296, 4194851296, 4210579696, 4226300896, 4242029296, 4257750496, 4273478896,
    4289200096, 4304928496, 4320649696, 4336378096, 4352704096, 4368432496, 4384153696,
    4399882096, 4415603296, 4421654896, 4447052896, 4457338096, 4478502496, 4494230896,
    4510556896, 4525680496, 4542006496, 4557734896, 4573456096, 4589184496, 4604905696,
    4620634096, 4636355296, 4652083696, 4667804896, 4683533296, 4699859296, 4714982896,
    4731308896, 4747037296, 4762758496, 4778486896, 4794208096, 4809936496, 4825657696,
    4839571696, 4857107296, 4871021296, 4889161696, 4902470896, 4920611296, 4933920496,
    4952060896, 4965974896, 4983510496, 4997424496, 5014960096, 5028874096, 5047014496,
    5060323696, 5078464096, 5091773296, 5109913696, 5123827696, 5141363296, 5155277296,
    5172812896, 5186726896, 5204262496, 5218176496, 5236316896, 5249626096, 5267766496,
    5281075696, 5299216096, 5313130096, 5330665696, 5344579696, 5362115296, 5376029296,
    5394169696, 5407478896, 5425619296, 5438928496, 5457068896, 5468563696, 5489123296,
    5500013296, 5520572896, 5531462896, 5552022496, 5563517296, 5584076896, 5594966896,
    5615526496, 5626416496, 5646976096, 5657866096, 5678425696, 5689315696, 5709875296,
    5720765296, 5741324896, 5752819696, 5773379296, 5784269296, 5804828896, 5815718896,
    5836278496, 5847168496, 5867728096, 5878618096, 5899177696, 5910672496, 5931232096,
    5942122096, 5962681696, 5973571696, 5994131296, 6005021296, 6025580896, 6036470896,
    6057030496, 6067920496, 6088480096, 6099974896, 6120534496, 6131424496, 6151984096,
    6162874096, 6183433696, 6194323696, 6214883296, 6225773296, 6246332896, 6257827696,
    6278387296, 6289277296, 6309836896, 6320726896, 6341286496, 6352176496, 6372736096,
    6383626096, 6404185696, 6415075696, 6435635296])]

/-- The clock of America/Los_Angeles. -/
def americaLosAngeles : Clock := .ofPhases (-28378) [
  (-28800, -25200, [
    1577327296, 2661697696, 2679838096, 2693147296, 2711287696, 3414760096, 3529582096,
    3607000156, 3632311696, 3674129296, 3686830096, 3705578896, 3718884496, 3737028496,
    3750334096, 3768478096, 3781783696, 3799927696, 3813233296, 3831377296, 3844682896,
    3863431696, 3876737296, 3894881296, 3908186896, 3926330896, 3939636496, 3957780496,
    3971086096, 3989230096, 4002535696, 4021284496, 4033985296, 4052734096, 4068458896,
    4084183696, 4099908496, 4115633296, 4131358096, 4147082896, 4163412496, 4178532496,
    4194862096, 4210590496, 4226311696, 4242040096, 4257761296, 4273489696, 4289210896,
    4304939296, 4320660496, 4336388896, 4352714896, 4368443296, 4384164496, 4399892896,
    4415614096, 4421665696, 4447063696, 4457348896, 4478513296, 4494241696, 4510567696,
    4525691296, 4542017296, 4557745696, 4573466896, 4589195296, 4604916496, 4620644896,
    4636366096, 4652094496, 4667815696, 4683544096, 4699870096, 4714993696, 4731319696,
    4747048096, 4762769296, 4778497696, 4794218896, 4809947296, 4825668496, 4839582496,
    4857118096, 4871032096, 4889172496, 4902481696, 4920622096, 4933931296, 4952071696,
    4965985696, 4983521296, 4997435296, 5014970896, 5028884896, 5047025296, 5060334496,
    5078474896, 5091784096, 5109924496, 5123838496, 5141374096, 5155288096, 5172823696,
    5186737696, 5204273296, 5218187296, 5236327696, 5249636896, 5267777296, 5281086496,
    5299226896, 5313140896, 5330676496, 5344590496, 5362126096, 5376040096, 5394180496,
    5407489696, 5425630096, 5438939296, 5457079696, 5468574496, 5489134096, 5500024096,
    5520583696, 5531473696, 5552033296, 5563528096, 5584087696, 5594977696, 5615537296,
    5626427296, 5646986896, 5657876896, 5678436496, 5689326496, 5709886096, 5720776096,
    5741335696, 5752830496, 5773390096, 5784280096, 5804839696, 5815729696, 5836289296,
    5847179296, 5867738896, 5878628896, 5899188496, 5910683296, 5931242896, 5942132896,
    5962692496, 5973582496, 5994142096, 6005032096, 6025591696, 6036481696, 6057041296,
    6067931296, 6088490896, 6099985696, 6120545296, 6131435296, 6151994896, 6162884896,
    6183444496, 6194334496, 6214894096, 6225784096, 6246343696, 6257838496, 6278398096,
    6289288096, 6309847696, 6320737696, 6341297296, 6352187296, 6372746896, 6383636896,
    6404196496, 6415086496, 6435646096])]

/-- The clock of Asia/Kolkata. -/
def asiaKolkata : Clock := .ofPhases 21208 [
  (21200, 19270, [649730088, 1139272496]),
  (19800, 23400, [2275261626, 3403385896, 3422908696, 3432329896, 3530822296])]

/-- The clock of Asia/Kathmandu. -/
def asiaKathmandu : Clock := .ofPhases 20476 [
  (19800, 20700, [2717023620, 4799869096])]

/-- The clock of Australia/Lord_Howe. -/
def australiaLordHowe : Clock := .ofPhases 38180 [
  (36000, 37800, [1930852316, 4647184096]),
  (41400, 37800, [
    4667752696, 4679240296, 4699807096, 4710689896, 4731256696, 4742139496, 4762706296,
    4773589096]),
  (39600, 37800, [
    4794155896, 4806250096, 4825000696, 4837699696, 4857055096, 4869754096, 4889109496,
    4901203696, 4920559096, 4931443696, 4952008696, 4962893296, 4983458296, 4994342896,
    5014907896, 5026397296, 5046962296, 5057846896, 5078411896, 5089296496, 5109861496,
    5123165296, 5141311096, 5154614896, 5172760696, 5186064496, 5204210296, 5217514096,
    5236264696, 5248963696, 5262271096, 5280413296, 5299163896, 5312467696, 5330613496,
    5343917296, 5362063096, 5375366896, 5394117496, 5406816496, 5425567096, 5438870896,
    5457016696, 5469715696, 5488466296, 5502374896, 5518101496, 5533824496, 5549551096,
    5565274096, 5581000696, 5596723696, 5612450296, 5628173296, 5644504696, 5660227696,
    5675954296, 5691677296, 5707403896, 5723126896, 5738853496, 5754576496, 5770303096,
    5786026096, 5801752696, 5817475696, 5833807096, 5849530096, 5865256696, 5880979696,
    5896706296, 5912429296, 5928155896, 5943878896, 5959605496, 5975328496, 5991055096,
    6007382896, 6023109496, 6038832496, 6054559096, 6070282096, 6086008696, 6101731696,
    6117458296, 6133181296, 6148907896, 6164630896, 6180962296, 6196685296, 6212411896,
    6228134896, 6243861496, 6259584496, 6275311096, 6291034096, 6306760696, 6322483696,
    6338210296, 6353933296, 6370264696, 6385987696, 6401714296, 6417437296, 6433163896])]

/-- The clock of Pacific/Apia. -/
def pacificApia : Clock := .ofPhases 45184 [
  (-41216, -41400, [1849542912, 2433088512]),
  (-39600, -36000, [3663856696, 5580466096, 5596720096, 5611840096]),
  (50400, 46800, [
    5620206496, 5628169696, 5643894496, 5660224096, 5675344096, 5691673696, 5706793696,
    5723123296, 5738243296, 5754572896, 5769692896, 5786022496, 5801142496, 5817472096,
    5833196896, 5849526496, 5864646496, 5880976096, 5896096096, 5912425696])]

/-- The clock of Pacific/Kiritimati. -/
def pacificKiritimati : Clock := .ofPhases (-37760) [
  (-38400, -36000, [2117552256, 4602589696]),
  (50400, 50400, [5083835296])]

/-- The clock of Europe/London. -/
def europeLondon : Clock := .ofPhases (-75) [
  (0, 3600, [
    442304971, 2603003296, 2614494496, 2630824096, 2644820896, 2661064096, 2677480096, 2693118496,
    2708929696, 2724568096, 2742798496, 2756622496, 2772433696, 2787467296, 2804401696,
    2821336096, 2834036896, 2852180896, 2866091296, 2884235296, 2898750496, 2915684896,
    2930200096, 2946529696, 2961649696, 2979188896, 2993704096, 3010638496, 3025153696,
    3041483296, 3056603296, 3073537696, 3088052896, 3104987296, 3119502496, 3135832096,
    3151556896, 3168491296, 3183006496, 3199336096, 3214456096, 3231390496, 3245905696,
    3262840096, 3277355296, 3293684896, 3308804896, 3325739296, 3344488096, 3352955296]),
  (7200, 3600, [
    3390449296, 3398916496, 3419479696, 3430366096, 3450929296, 3462420496, 3482378896,
    3496894096, 3513914896, 3522900496]),
  (0, 3600, [3530161696, 3546491296, 3561611296, 3575521696]),
  (7200, 3600, [3577937296, 3588218896]),
  (0, 3600, [
    3595480096, 3606971296, 3626929696, 3640235296, 3658379296, 3672894496, 3689224096,
    3704344096, 3720673696, 3736398496, 3752728096, 3767848096, 3782363296, 3798692896,
    3813812896, 3830747296, 3845262496, 3862801696, 3877316896, 3893646496, 3908766496,
    3925700896, 3940216096, 3957150496, 3971665696, 3987995296, 4003115296, 4018235296,
    4036984096, 4049684896, 4068433696, 4081739296, 4099883296, 4112584096, 4131332896,
    4144033696, 4162782496, 4175483296, 4194232096, 4206932896, 4226286496, 4235963296,
    4352689696, 4364785696, 4384139296, 4396235296, 4415588896, 4427684896, 4447038496,
    4459134496, 4478488096, 4491188896, 4509937696, 4522638496, 4541387296, 4554088096,
    4573441696, 4585537696, 4604891296, 4616987296, 4636340896, 4649642896, 4667786896,
    4681092496, 4699236496, 4712542096, 4730686096, 4743991696, 4762740496, 4776046096,
    4794190096, 4807495696, 4825639696, 4838945296, 4857089296, 4870394896, 4888538896,
    4901844496, 4920593296, 4933294096, 4952042896, 4965348496, 4983492496, 4996798096,
    5014942096, 5028247696, 5046391696, 5059697296, 5077841296, 5091146896, 5109290896,
    5123201296, 5141345296, 5154650896, 5172794896, 5186100496, 5204244496, 5217550096,
    5236298896, 5248999696, 5267748496, 5280449296, 5299198096, 5312503696, 5330647696,
    5343953296, 5362097296, 5375402896, 5394151696, 5406852496, 5425601296, 5438302096,
    5457050896, 5469751696, 5488500496, 5501806096, 5519950096, 5533255696, 5551399696,
    5564705296, 5583454096, 5596154896, 5614903696, 5627604496, 5646353296, 5659658896,
    5677802896, 5691108496, 5709252496, 5722558096, 5740702096, 5754007696, 5772756496,
    5785457296, 5804206096, 5816906896, 5835655696, 5848961296, 5867105296, 5880410896,
    5898554896, 5911860496, 5930609296, 5943310096, 5962058896, 5974759696, 5993508496,
    6006814096, 6024958096, 6038263696, 6056407696, 6069713296, 6087857296, 6101162896,
    6119911696, 6132612496, 6151361296, 6164062096, 6182810896, 6196116496, 6214260496,
    6227566096, 6245710096, 6259015696, 6277764496, 6290465296, 6309214096, 6321914896,
    6340663696, 6353364496, 6372113296, 6385418896, 6403562896, 6416868496, 6435012496])]

/-- The clock of Europe/Dublin. -/
def europeDublin : Clock := .ofPhases (-1521) [
  (2079, 0, [2603004817, 2614496017]),
  (3600, 0, [
    2630824096, 2644820896, 2661064096, 2677480096, 2693118496, 2708929696, 2724568096,
    2742798496, 2756622496, 2772433696, 2787467296, 2804401696, 2821336096, 2834036896,
    2852180896, 2866091296, 2884235296, 2898750496, 2915684896, 2930200096, 2946529696,
    2961649696, 2979188896, 2993704096, 3010638496, 3025153696, 3041483296, 3056603296,
    3073537696, 3088052896, 3104987296, 3119502496, 3135832096, 3151556896, 3168491296,
    3183006496, 3199336096, 3214456096, 3231390496, 3245905696, 3262840096, 3277355296,
    3293684896, 3308804896, 3325739296, 3344488096, 3352955296, 3561611296, 3575521696,
    3595480096, 3609995296, 3626929696, 3640235296, 3658379296, 3672894496, 3689224096,
    3704344096, 3720673696, 3736398496, 3752728096, 3767848096, 3782363296, 3798692896,
    3813812896, 3830747296, 3845262496, 3862801696, 3877316896, 3893646496, 3908766496,
    3925700896, 3940216096, 3957150496, 3971665696, 3987995296, 4003115296, 4018235296,
    4036984096, 4049684896, 4068433696, 4081739296, 4099883296, 4112584096, 4131332896,
    4144033696, 4162782496, 4175483296, 4194232096, 4206932896, 4226286496, 4235963296,
    4352689696, 4364785696, 4384139296, 4396235296, 4415588896, 4427684896, 4447038496,
    4459134496, 4478488096, 4491188896, 4509937696, 4522638496, 4541387296, 4554088096,
    4573441696, 4585537696, 4604891296, 4616987296, 4636340896, 4649642896, 4667786896,
    4681092496, 4699236496, 4712542096, 4730686096, 4743991696, 4762740496, 4776046096,
    4794190096, 4807495696, 4825639696, 4838945296, 4857089296, 4870394896, 4888538896,
    4901844496, 4920593296, 4933294096, 4952042896, 4965348496, 4983492496, 4996798096,
    5014942096, 5028247696, 5046391696, 5059697296, 5077841296, 5091146896, 5109290896,
    5123201296, 5141345296, 5154650896, 5172794896, 5186100496, 5204244496, 5217550096,
    5236298896, 5248999696, 5267748496, 5280449296, 5299198096, 5312503696, 5330647696,
    5343953296, 5362097296, 5375402896, 5394151696, 5406852496, 5425601296, 5438302096,
    5457050896, 5469751696, 5488500496, 5501806096, 5519950096, 5533255696, 5551399696,
    5564705296, 5583454096, 5596154896, 5614903696, 5627604496, 5646353296, 5659658896,
    5677802896, 5691108496, 5709252496, 5722558096, 5740702096, 5754007696, 5772756496,
    5785457296, 5804206096, 5816906896, 5835655696, 5848961296, 5867105296, 5880410896,
    5898554896, 5911860496, 5930609296, 5943310096, 5962058896, 5974759696, 5993508496,
    6006814096, 6024958096, 6038263696, 6056407696, 6069713296, 6087857296, 6101162896,
    6119911696, 6132612496, 6151361296, 6164062096, 6182810896, 6196116496, 6214260496,
    6227566096, 6245710096, 6259015696, 6277764496, 6290465296, 6309214096, 6321914896,
    6340663696, 6353364496, 6372113296, 6385418896, 6403562896, 6416868496, 6435012496])]

/-- The clock of America/Sao_Paulo. -/
def americaSaoPaulo : Clock := .ofPhases (-11188) [
  (-10800, -7200, [
    2527752884, 3088009696, 3103604896, 3119592496, 3135140896, 3661147696, 3672898096,
    3692683696, 3703134496, 3724219696, 3734756896, 3755842096, 3763614496, 4099541296,
    4110769696, 4139803696, 4144897696, 4166069296, 4173841696, 4195013296, 4205377696,
    4226549296, 4237000096, 4794715696, 4806203296, 4825560496, 4835233696, 4857096496,
    4866164896, 4887941296, 4897009696, 4919390896, 4929668896, 4951445296, 4961723296,
    4982894896, 4992568096, 5014949296, 5023412896, 5045794096, 5056676896, 5077243696,
    5088126496, 5108693296, 5118971296, 5139538096, 5151025696, 5171074096, 5183684896,
    5203042096, 5214529696, 5233886896, 5246584096, 5265941296, 5277428896, 5297995696,
    5308878496, 5331259696, 5340328096, 5361499696, 5371777696, 5394331696, 5403832096,
    5424398896, 5435281696, 5457662896, 5467336096, 5487298096, 5498180896, 5519352496,
    5529630496, 5550802096, 5561684896, 5582251696, 5593134496, 5613701296, 5625188896,
    5645755696, 5656033696, 5677205296, 5687483296, 5708654896, 5719537696, 5740104496,
    5750987296, 5771554096, 5782436896, 5803003696, 5813886496, 5836267696, 5845336096])]

/-- The clock of America/St_Johns. -/
def americaStJohns : Clock := .ofPhases (-12652) [
  (-9052, -12652, [
    2630836748, 2644829948, 2662891148, 2679821948, 2696317148, 2704867148, 2727680348,
    2743401548, 2759129948, 2774851148, 2791184348, 2806300748, 2822633948, 2837750348,
    2854083548, 2869199948, 2885533148, 2900649548, 2916982748, 2932703948, 2948432348,
    2964153548, 2980486748, 2995603148, 3011936348, 3027052748, 3043385948, 3058502348,
    3074835548, 3089951948, 3106285148, 3122006348, 3138339548, 3153455948, 3169789148,
    3184905548]),
  (-12600, -9000, [
    3198045548, 3201238696, 3216355096, 3233296696, 3245993896, 3264746296, 3277443496,
    3296195896, 3308893096, 3328250296, 3340342696, 3359699896, 3372397096, 3391149496,
    3403846696, 3422599096, 3529565896, 3548923096, 3561620296, 3580372696, 3593069896,
    3611822296, 3624519496, 3643271896, 3655969096, 3675326296, 3688023496, 3705566296,
    3718868296, 3737015896, 3750317896, 3768465496, 3781767496, 3799915096, 3813217096,
    3831364696, 3844666696, 3863419096, 3876721096, 3894868696, 3908170696, 3926318296,
    3939620296, 3957767896, 3971069896, 3989217496, 4005543496, 4021271896, 4036993096,
    4052721496, 4068442696, 4084171096, 4099892296, 4115620696, 4131341896, 4147070296,
    4163396296, 4178519896, 4194845896, 4210574296, 4226295496, 4242023896, 4257745096,
    4273473496, 4289194696, 4304923096, 4320644296, 4336372696, 4352698696, 4368427096,
    4384148296, 4399876696, 4415597896, 4431326296, 4447047496, 4462775896, 4478497096,
    4494225496, 4510551496, 4525675096, 4542001096, 4557729496, 4573450696, 4589179096,
    4604900296, 4620628696, 4636349896, 4652078296, 4667799496, 4683527896, 4699853896,
    4714977496, 4731303496, 4747031896, 4762753096, 4778481496, 4794202696, 4809931096,
    4825652296, 4839559156, 4857094756]),
  (-5400, -12600, [4871008756, 4889145556]),
  (-9000, -12600, [
    4902458356, 4920598756, 4933907956, 4952048356, 4965962356, 4983497956, 4997411956,
    5014947556, 5028861556, 5047001956, 5060311156, 5078451556, 5091760756, 5109901156,
    5123815156, 5141350756, 5155264756, 5172800356, 5186714356, 5204249956, 5218163956,
    5236304356, 5249613556, 5267753956, 5281063156, 5299203556, 5313117556, 5330653156,
    5344567156, 5362102756, 5376016756, 5394157156, 5407466356, 5425606756, 5438915956,
    5457056356, 5468551156, 5489110756, 5500000756, 5520560356, 5531450356, 5552009956,
    5563504756, 5584064356, 5594954356, 5615521096, 5626411096, 5646970696, 5657860696,
    5678420296, 5689310296, 5709869896, 5720759896, 5741319496, 5752814296, 5773373896,
    5784263896, 5804823496, 5815713496, 5836273096, 5847163096, 5867722696, 5878612696,
    5899172296, 5910667096, 5931226696, 5942116696, 5962676296, 5973566296, 5994125896,
    6005015896, 6025575496, 6036465496, 6057025096, 6067915096, 6088474696, 6099969496,
    6120529096, 6131419096, 6151978696, 6162868696, 6183428296, 6194318296, 6214877896,
    6225767896, 6246327496, 6257822296, 6278381896, 6289271896, 6309831496, 6320721496,
    6341281096, 6352171096, 6372730696, 6383620696, 6404180296, 6415070296, 6435629896])]

/-- The clock of Antarctica/Troll. -/
def antarcticaTroll : Clock := .ofPhases 0 [
  (7200, 0, [
    5406852496, 5425601296, 5438302096, 5457050896, 5469751696, 5488500496, 5501806096,
    5519950096, 5533255696, 5551399696, 5564705296, 5583454096, 5596154896, 5614903696,
    5627604496, 5646353296, 5659658896, 5677802896, 5691108496, 5709252496, 5722558096,
    5740702096, 5754007696, 5772756496, 5785457296, 5804206096, 5816906896, 5835655696,
    5848961296, 5867105296, 5880410896, 5898554896, 5911860496, 5930609296, 5943310096,
    5962058896, 5974759696, 5993508496, 6006814096, 6024958096, 6038263696, 6056407696,
    6069713296, 6087857296, 6101162896, 6119911696, 6132612496, 6151361296, 6164062096,
    6182810896, 6196116496, 6214260496, 6227566096, 6245710096, 6259015696, 6277764496,
    6290465296, 6309214096, 6321914896, 6340663696, 6353364496, 6372113296, 6385418896,
    6403562896, 6416868496, 6435012496])]

/-- The clock of Pacific/Chatham. -/
def pacificChatham : Clock := .ofPhases 44028 [
  (44100, 45900, [1102529668, 3537540796]),
  (49500, 45900, [
    4447600096, 4457276896, 4478444896, 4489936096, 4510499296, 4521385696, 4541948896,
    4552835296, 4573398496, 4584284896, 4604848096, 4615734496, 4636297696, 4647184096,
    4667747296, 4679238496, 4699801696, 4710688096, 4731251296, 4742137696, 4762700896,
    4773587296, 4794150496, 4805036896, 4825600096, 4836486496, 4857049696, 4868540896,
    4889104096, 4899990496, 4918739296, 4932649696, 4950188896, 4964099296, 4981638496,
    4995548896, 5013088096, 5027603296, 5044537696, 5059052896, 5075987296, 5090502496,
    5107436896, 5121952096, 5139491296, 5153401696, 5170940896, 5184851296, 5202390496,
    5216905696, 5233840096, 5248355296, 5265289696, 5279804896, 5297344096, 5311254496,
    5328793696, 5342704096, 5360243296, 5374758496, 5391692896, 5406208096, 5423142496,
    5437657696, 5454592096, 5469107296, 5486041696, 5502371296, 5517491296, 5533820896,
    5548940896, 5565270496, 5580390496, 5596720096, 5611840096, 5628169696, 5643894496,
    5660224096, 5675344096, 5691673696, 5706793696, 5723123296, 5738243296, 5754572896,
    5769692896, 5786022496, 5801142496, 5817472096, 5833196896, 5849526496, 5864646496,
    5880976096, 5896096096, 5912425696, 5927545696, 5943875296, 5958995296, 5975324896,
    5990444896, 6007379296, 6022499296, 6038828896, 6053948896, 6070278496, 6085398496,
    6101728096, 6116848096, 6133177696, 6148297696, 6164627296, 6180352096, 6196681696,
    6211801696, 6228131296, 6243251296, 6259580896, 6274700896, 6291030496, 6306150496,
    6322480096, 6337600096, 6353929696, 6369654496, 6385984096, 6401104096, 6417433696,
    6432553696])]

/-- The clock of Asia/Tokyo. -/
def asiaTokyo : Clock := .ofPhases 33539 [
  (32400, 36000, [
    1707254896, 3611165296, 3622656496, 3640195696, 3654106096, 3674669296, 3685555696,
    3706118896, 3717005296])]

/-- The clock of America/Caracas. -/
def americaCaracas : Clock := .ofPhases (-16064) [
  (-16060, -16200, [1770461760, 2468228156]),
  (-14400, -16200, [4137217096, 5492150896, 5757053296])]

/-- The clock of Asia/Tehran. -/
def asiaTehran : Clock := .ofPhases 12344 [
  (12600, 16200, [3204500552, 4522787896]),
  (14400, 18000, [4541191096, 4554584896, 4566076096]),
  (12600, 16200, [
    4574543296, 4591565896, 4601498296, 4617399496, 4633466296, 4968183496, 4980448696,
    4996177096, 5012071096, 5027713096, 5043607096, 5059249096, 5075143096, 5090785096,
    5106679096, 5122321096, 5138215096, 5153943496, 5169837496, 5185479496, 5201373496,
    5217015496, 5232909496, 5248551496, 5264445496, 5280173896, 5296067896, 5311709896,
    5327603896, 5343245896, 5359139896, 5374781896, 5390675896, 5406404296, 5422298296,
    5501012296, 5516906296, 5532634696, 5548528696, 5564170696, 5580064696, 5595706696,
    5611600696, 5627242696, 5643136696, 5658865096, 5674759096, 5690401096, 5706295096,
    5721937096, 5737831096, 5753473096, 5769367096, 5785095496, 5800989496, 5816631496,
    5832525496, 5848167496, 5864061496, 5879703496, 5895597496, 5911325896, 5927219896,
    5942861896, 5958755896])]

/-- The clock of Africa/Abidjan. -/
def africaAbidjan : Clock := .ofPhases (-968) [
  (0, 0, [2464584264])]

/-- The clock of America/Panama. -/
def americaPanama : Clock := .ofPhases (-19088) [
  (-19176, -18000, [1770464784, 2348048872])]

end Zone

end SiteAnalytics
